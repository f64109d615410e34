import LocatorPath.Definition.Registry
import LocatorPath.Driver
import LocatorPath.Path.Error
import LocatorPath.Path.Written

/-! Why a path leads nowhere. The first thing that fails ends a resolution. -/
namespace LocatorPath

inductive ModifierError where
  | allWithIndex
  | notCollection (name : String)
  | thisNotCollection
  deriving DecidableEq, Repr

def ModifierError.message : ModifierError → String
  | allWithIndex => "'all' cannot be combined with an index modifier"
  | notCollection name => "'" ++ name ++ "' is not a collection"
  | thisNotCollection => "'this' does not refer to a collection"

inductive ResolveError where
  | path (e : ParseError)
  | aliasNotFound (e : LookupError)
  | invalidModifier (step : String) (reason : ModifierError)
  | indexOutOfRange (index : IndexSpec) (size : Nat)
  | noMatch (filter : TextFilter)
  | driver (e : DriverError)
  deriving DecidableEq, Repr

namespace ResolveError

def message : ResolveError → String
  | path e => e.message
  | aliasNotFound e => e.message
  | invalidModifier step reason => "Invalid modifier in '" ++ step ++ "': " ++ reason.message
  | indexOutOfRange index size =>
    "Index " ++ index.render ++ " is out of range for a collection of " ++ size.repr ++ " elements"
  | noMatch filter => "No element matches " ++ filter.render
  | driver e => e.message

/-- An index after `all` counts as a modifier that its step cannot have. -/
def ofParse : ParseError → ResolveError
  | .allWithIndex segment => invalidModifier segment .allWithIndex
  | e => path e

def describe : ResolveError → String
  | driver e => "[" ++ e.code ++ "] " ++ e.message
  | e => e.message

end ResolveError

end LocatorPath
