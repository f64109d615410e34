import LocatorPath.Yaml.Node

/-! Values of known types from the nodes of a document. -/
namespace LocatorPath.Yaml

def depthLimit : Nat := 128

abbrev Decoder := StateT Nat (Except Error)

def isNull (text : String) : Bool := ["null", "Null", "NULL", "~"].contains text

def boolean? : String → Option Bool
  | "true" | "True" | "TRUE" => some true
  | "false" | "False" | "FALSE" => some false
  | _ => none

namespace Document

def follow (doc : Document) : Node → Decoder Node
  | .reference anchor => do
    let followed := (← get) + 1
    if 100 * doc.events < followed then throw .tooManyAliases
    else
      set followed
      match doc.anchored.lookup anchor with
      | some node => return node
      | none => throw (.unknownAnchor anchor.repr)
  | node => return node

def text (doc : Document) (node : Node) : Decoder String := do
  match ← doc.follow node with
  | .scalar _ _ text => return text
  | _ => throw (.wrongType "a string")

def boolean (doc : Document) (node : Node) : Decoder Bool := do
  match ← doc.follow node with
  | .scalar tag style text =>
    if style == .plain || (style == .literal && tag == some (.ofText "tag:yaml.org,2002:bool")) then
      match boolean? text with
      | some b => return b
      | none => throw (.wrongType "a boolean")
    else throw (.wrongType "a boolean")
  | _ => throw (.wrongType "a boolean")

/-- A plain scalar that is empty or written as null stands for no value, unless a tag makes it
one. -/
def optional {α : Type} (doc : Document) (decode : Node → Decoder α) (node : Node) :
    Decoder (Option α) := do
  match ← doc.follow node with
  | .scalar tag .plain text =>
    if tag == some (.ofText "tag:yaml.org,2002:null") then
      if isNull text then return none else throw (.wrongType "null")
    else if tag.isNone && (text.isEmpty || isNull text) then return none
    else return some (← decode (.scalar tag .plain text))
  | node => return some (← decode node)

def items (doc : Document) (node : Node) : Decoder (List Node) := do
  match ← doc.follow node with
  | .sequence items => return items
  | .scalar _ .plain "" => return []
  | _ => throw (.wrongType "a sequence")

def pairs (doc : Document) (node : Node) : Decoder (List (Node × Node)) := do
  match ← doc.follow node with
  | .mapping pairs => return pairs
  | .scalar _ .plain "" => return []
  | _ => throw (.wrongType "a mapping")

def fields (doc : Document) (known : List String) :
    List (Node × Node) → Decoder (List (String × Node))
  | [] => return []
  | (key, value) :: rest => do
    let name ← doc.text key
    let others ← doc.fields known rest
    if !known.contains name then return others
    else if (others.lookup name).isSome then throw (.wrongField name)
    else return (name, value) :: others

def required {α : Type} (fields : List (String × Node)) (name : String)
    (decode : Node → Decoder α) : Decoder α :=
  match fields.lookup name with
  | some node => decode node
  | none => throw (.wrongField name)

def defaulting {α : Type} (fields : List (String × Node)) (name : String) (default : α)
    (decode : Node → Decoder α) : Decoder α :=
  match fields.lookup name with
  | some node => decode node
  | none => return default

def rootPairs (doc : Document) : Decoder (List (Node × Node)) :=
  match doc.root with
  | some node => doc.pairs node
  | none => return []

end Document

def decodeText {α : Type} (text : String)
    (decode : Document → List (Node × Node) → Decoder α) : Except Error α := do
  let doc ← Document.read text
  let (a, _) ← (do decode doc (← doc.rootPairs) : Decoder α).run 0
  return a

end LocatorPath.Yaml
