import LocatorPath.Definition.Spec
import LocatorPath.Files.Basic
import LocatorPath.Yaml.Decode

/-! Files that hold a definition tree. -/
namespace LocatorPath
open Yaml (Document Node Decoder)

namespace DefinitionSpec

mutual

def decodeAll (doc : Document) : (depth : Nat) → Node → Decoder (List DefinitionSpec)
  | 0, _ => throw .tooDeep
  | depth + 1, node => do (← doc.items node).mapM (decode doc depth)

def decode (doc : Document) : (depth : Nat) → Node → Decoder DefinitionSpec
  | 0, _ => throw .tooDeep
  | depth + 1, node => do
    let fields ← doc.fields ["alias", "selector", "selector_type", "collection", "children"]
      (← doc.pairs node)
    return .mk (← Document.required fields "alias" doc.text)
      (← Document.required fields "selector" doc.text)
      (← Document.defaulting fields "selector_type" none (doc.optional doc.text))
      (← Document.defaulting fields "collection" false doc.boolean)
      (← Document.defaulting fields "children" none (doc.optional (decodeAll doc depth)))

end

def readTree (text : String) : Except Yaml.Error (List DefinitionSpec) :=
  Yaml.decodeText text fun doc pairs => do
    let fields ← doc.fields ["definitions"] pairs
    Document.defaulting fields "definitions" [] (decodeAll doc (Yaml.depthLimit - 1))

end DefinitionSpec

inductive LoadError where
  | io (e : FileError)
  | yaml (e : Yaml.Error)
  | definition (e : DefinitionError)
  deriving DecidableEq, Repr

def LoadError.message : LoadError → String
  | io e => "IO error: " ++ e.message
  | yaml e => "YAML parse error: " ++ e.message
  | definition e => e.message

namespace Registry

def readText (text : String) : Except LoadError Registry :=
  match DefinitionSpec.readTree text with
  | .error e => .error (.yaml e)
  | .ok specs => (buildRegistry specs).mapError .definition

def loadFrom {m : Type → Type} [Monad m] (files : Files m) (path : String) :
    m (Except LoadError Registry) := do
  match ← files.read path with
  | .error e => return .error (.io e)
  | .ok text => return readText text

end Registry

end LocatorPath
