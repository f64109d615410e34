import LocatorPath.Yaml.Token

/-! The tree of a document. An alias stands for the node whose anchor came last before it, which
may be a node around the alias, so that nodes with anchors are kept in a list of their own. -/
namespace LocatorPath.Yaml

inductive Node where
  | scalar (tag : Option Octets) (style : Style) (text : String)
  | sequence (items : List Node)
  | mapping (pairs : List (Node × Node))
  | reference (anchor : Nat)
  deriving Repr

structure Document where
  root : Option Node
  anchored : List (Nat × Node)
  events : Nat
  deriving Repr

def Node.empty : Node := .scalar none .plain ""

namespace Node

structure Reading where
  tokens : List Token
  handles : List (String × Octets) := [("!", .ofText "!"), ("!!", .ofText "tag:yaml.org,2002:")]
  names : List (String × Nat) := []
  numbers : List Nat := []
  anchored : List (Nat × Node) := []
  events : Nat := 0
  deriving Repr

abbrev Reader := StateT Reading (Except Error)

def peek : Reader (Option Token) := return (← get).tokens.head?

def skip : Reader Unit := modify fun r => {r with tokens := r.tokens.tail}

def count (events : Nat) : Reader Unit := modify fun r => {r with events := r.events + events}

def nextIs (tokens : List Token) : Reader Bool :=
  return match (← get).tokens with
    | [] => true
    | t :: _ => tokens.contains t

def emptyNode : Reader Node := do
  count 1
  return .empty

/-- Numbers a new anchor by how many names are known before it, and answers its place among the
anchored nodes. A name that is used again stands for its latest number, and a number that is used
again for the node that starts last. -/
def newAnchor (name : Option String) : Reader (Option Nat) :=
  match name with
  | none => return none
  | some name => do
    let r ← get
    let number := r.names.length
    set {r with
      names := (name, number) :: r.names.filter (·.1 != name)
      numbers := number :: r.numbers}
    return some r.numbers.length

def keep (place : Option Nat) (node : Node) : Reader Node :=
  match place with
  | none => return node
  | some place => do
    modify fun r => {r with anchored := (place, node) :: r.anchored}
    return node

def Reading.numbered (r : Reading) : List (Nat × Node) :=
  pairsOf r.numbers
where
  pairsOf : List Nat → List (Nat × Node)
    | [] => []
    | number :: earlier =>
      match r.anchored.lookup earlier.length with
      | some node => (number, node) :: pairsOf earlier
      | none => pairsOf earlier

def readAnchor : Reader (Option String) := do
  match ← peek with
  | some (.anchor name) => do
    skip
    return some name
  | _ => return none

def readTag : Reader (Option Octets) := do
  match ← peek with
  | some (.tag handle suffix) => do
    skip
    if handle.isEmpty then return some suffix
    else
      match (← get).handles.lookup handle with
      | some expansion => return some (expansion ++ suffix)
      | none => throw (.unexpectedToken "found an undefined tag handle")
  | _ => return none

def readProperties : Reader (Option String × Option Octets) := do
  match ← readAnchor with
  | some name => return (some name, ← readTag)
  | none =>
    match ← readTag with
    | some tag => return (← readAnchor, some tag)
    | none => return (none, none)

mutual

/-- Reads a node. The tag `!` says nothing about a scalar that is there. `block` tells whether the
node may be a block, `indentless` whether it may be a sequence whose entries stand under their
key. -/
def read : (fuel : Nat) → (block indentless : Bool) → Reader Node
  | 0, _, _ => throw .tooDeep
  | fuel + 1, block, indentless => do
    if let some (.reference name) ← peek then
      skip
      count 1
      match (← get).names.lookup name with
      | some number => return .reference number
      | none => throw (.unknownAnchor name)
    else
      let (name, tag) ← readProperties
      match ← peek with
      | some (.scalar style text) => do
        skip
        count 1
        keep (← newAnchor name) (.scalar (tag.filter (· != .ofText "!")) style text)
      | some .flowSequenceStart => do
        skip
        count 2
        let anchor ← newAnchor name
        keep anchor (.sequence (← readFlowEntries fuel true))
      | some .flowMappingStart => do
        skip
        count 2
        let anchor ← newAnchor name
        keep anchor (.mapping (← readFlowPairs fuel true))
      | some .blockEntry =>
        if indentless then do
          count 2
          let anchor ← newAnchor name
          keep anchor (.sequence (← readIndentlessEntries fuel))
        else readNothing name tag
      | some .blockSequenceStart =>
        if block then do
          skip
          count 2
          let anchor ← newAnchor name
          keep anchor (.sequence (← readBlockEntries fuel))
        else readNothing name tag
      | some .blockMappingStart =>
        if block then do
          skip
          count 2
          let anchor ← newAnchor name
          keep anchor (.mapping (← readBlockPairs fuel))
        else readNothing name tag
      | _ => readNothing name tag

def readNothing (name : Option String) (tag : Option Octets) : Reader Node := do
  if name.isSome || tag.isSome then do
    count 1
    keep (← newAnchor name) (.scalar tag .plain "")
  else throw (.unexpectedToken "did not find expected node content")

def readBlockEntries : (fuel : Nat) → Reader (List Node)
  | 0 => throw .tooDeep
  | fuel + 1 => do
    match ← peek with
    | some .blockEntry => do
      skip
      let node ←
        if ← nextIs [.blockEntry, .blockEnd] then emptyNode else read fuel true false
      return node :: (← readBlockEntries fuel)
    | some .blockEnd => do
      skip
      return []
    | _ => throw (.unexpectedToken "did not find expected '-' indicator")

def readIndentlessEntries : (fuel : Nat) → Reader (List Node)
  | 0 => throw .tooDeep
  | fuel + 1 => do
    match ← peek with
    | some .blockEntry => do
      skip
      let node ←
        if ← nextIs [.blockEntry, .key, .value, .blockEnd] then emptyNode
        else read fuel true false
      return node :: (← readIndentlessEntries fuel)
    | _ => return []

def readBlockPairs : (fuel : Nat) → Reader (List (Node × Node))
  | 0 => throw .tooDeep
  | fuel + 1 => do
    match ← peek with
    | some .blockEnd => do
      skip
      return []
    | some .key => do
      skip
      let key ← if ← nextIs [.key, .value, .blockEnd] then emptyNode else read fuel true true
      let value ←
        if (← peek) == some .value then do
          skip
          if ← nextIs [.key, .value, .blockEnd] then emptyNode else read fuel true true
        else emptyNode
      return (key, value) :: (← readBlockPairs fuel)
    | _ => throw (.unexpectedToken "did not find expected key")

def readFlowEntries : (fuel : Nat) → (first : Bool) → Reader (List Node)
  | 0, _ => throw .tooDeep
  | fuel + 1, first => do
    if (← peek) == some .flowSequenceEnd then
      skip
      return []
    else
      if !first then
        if (← peek) == some .flowEntry then skip
        else throw (.unexpectedToken "did not find expected ',' or ']'")
      match ← peek with
      | some .flowSequenceEnd => do
        skip
        return []
      | some .key => do
        skip
        count 2
        let key ←
          if ← nextIs [.value, .flowEntry, .flowSequenceEnd] then do
            skip
            emptyNode
          else read fuel false false
        let value ←
          if (← peek) == some .value then do
            skip
            if ← nextIs [.flowEntry, .flowSequenceEnd] then emptyNode else read fuel false false
          else emptyNode
        return .mapping [(key, value)] :: (← readFlowEntries fuel false)
      | _ => do
        let node ← read fuel false false
        return node :: (← readFlowEntries fuel false)

def readFlowPairs : (fuel : Nat) → (first : Bool) → Reader (List (Node × Node))
  | 0, _ => throw .tooDeep
  | fuel + 1, first => do
    if (← peek) == some .flowMappingEnd then
      skip
      return []
    else
      if !first then
        if (← peek) == some .flowEntry then skip
        else throw (.unexpectedToken "did not find expected ',' or '\x7d'")
      match ← peek with
      | some .flowMappingEnd => do
        skip
        return []
      | some .key => do
        skip
        let key ←
          if ← nextIs [.value, .flowEntry, .flowMappingEnd] then emptyNode
          else read fuel false false
        let value ←
          if (← peek) == some .value then do
            skip
            if ← nextIs [.flowEntry, .flowMappingEnd] then emptyNode else read fuel false false
          else emptyNode
        return (key, value) :: (← readFlowPairs fuel false)
      | _ => do
        let key ← read fuel false false
        let value ← emptyNode
        return (key, value) :: (← readFlowPairs fuel false)

end

def readDirectives : (fuel : Nat) → (version : Bool) → (handles : List (String × Octets)) →
    Reader (List (String × Octets))
  | 0, _, _ => throw .tooDeep
  | fuel + 1, version, handles => do
    match ← peek with
    | some (.version major minor) => do
      if version then throw (.unexpectedToken "found duplicate %YAML directive")
      else if major != 1 || (minor != 1 && minor != 2) then
        throw (.unexpectedToken "found incompatible YAML document")
      else
        skip
        readDirectives fuel true handles
    | some (.tagHandle handle expansion) => do
      if (handles.lookup handle).isSome then
        throw (.unexpectedToken "found duplicate %TAG directive")
      else
        skip
        readDirectives fuel version ((handle, expansion) :: handles)
    | some .documentStart => do
      skip
      return handles
    | _ => throw (.unexpectedToken "did not find expected <document start>")

def readEnd : (fuel : Nat) → Reader Unit
  | 0 => throw .tooDeep
  | fuel + 1 => do
    match ← peek with
    | none => return
    | some .documentEnd => do
      skip
      readEnd fuel
    | _ => throw .severalDocuments

def isDirective : Token → Bool
  | .version _ _ | .tagHandle _ _ => true
  | _ => false

def readDocument (fuel : Nat) : Reader (Option Node) := do
  match ← peek with
  | none => return none
  | some t =>
    let root ←
      if t == .documentStart || isDirective t then do
        let handles ← readDirectives fuel false []
        modify fun r => {r with handles := handles ++ r.handles}
        let ended ← nextIs [.documentStart, .documentEnd]
        let directive := (← peek).any isDirective
        if ended || directive then emptyNode else read fuel true false
      else read fuel true false
    readEnd fuel
    return some root

end Node

def Document.read (text : String) : Except Error Document := do
  let ts ← tokens text
  let (root, r) ← (Node.readDocument (4 * ts.length + 8)).run {tokens := ts}
  return ⟨root, r.numbered, r.events⟩

end LocatorPath.Yaml
