import LocatorPath.Definition.Registry

/-! Definition trees as they are written down, and the registries built from them. -/
namespace LocatorPath

/-- One written definition. With children, even without any in their list, it is a component;
without, the mark decides between a collection and an element. -/
inductive DefinitionSpec where
  | mk (name selector : String) (strategy : Option String) (collection : Bool)
      (children : Option (List DefinitionSpec))
  deriving Repr

structure DefinitionError where
  name : String
  cause : RegistryError
  deriving DecidableEq, Repr

def DefinitionError.message (e : DefinitionError) : String :=
  "Invalid definition '" ++ e.name ++ "': " ++ e.cause.message

namespace DefinitionSpec

def name : DefinitionSpec → String
  | mk a _ _ _ _ => a

mutual

def define : DefinitionSpec → Except DefinitionError Definition
  | mk name selector strategy collection none => do
    let s ← (Selector.parse strategy selector).mapError (⟨name, ·⟩)
    return if collection then .collection name s else .element name s
  | mk name selector strategy collection (some children) => do
    let s ← (Selector.parse strategy selector).mapError (⟨name, ·⟩)
    let below ← defineAll .empty children
    return .component name s collection below.definitions

def defineAll (r : Registry) : List DefinitionSpec → Except DefinitionError Registry
  | [] => .ok r
  | spec :: rest => do
    -- all that is wrong below a definition comes before what is wrong with its alias
    let d ← spec.define
    let r ← (r.insert d).mapError (⟨spec.name, ·⟩)
    defineAll r rest

end

end DefinitionSpec

def buildRegistry (specs : List DefinitionSpec) : Except DefinitionError Registry :=
  DefinitionSpec.defineAll .empty specs

end LocatorPath
