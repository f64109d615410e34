import LocatorPath.Scope
import LocatorPath.Selector

/-! What a resolution asks of a page. -/
namespace LocatorPath

inductive DriverError where
  | noSuchElement (locator : String)
  | staleElement (message : String)
  | unsupportedLocator (using_ : String)
  | script (message : String)
  | timeout
  | other (message : String)
  deriving DecidableEq, Repr

namespace DriverError

def message : DriverError → String
  | noSuchElement locator => "No element matches " ++ locator
  | staleElement message => "Element is stale (removed from DOM): " ++ message
  | unsupportedLocator using_ =>
    "Locator strategy '" ++ using_ ++ "' is not supported by this driver"
  | script message => "Script execution error: " ++ message
  | timeout => "Timeout"
  | other message => "Other: " ++ message

def code : DriverError → String
  | noSuchElement _ => "NO_SUCH_ELEMENT"
  | staleElement _ => "STALE_ELEMENT"
  | unsupportedLocator _ => "UNSUPPORTED_LOCATOR"
  | script _ => "SCRIPT_ERROR"
  | timeout => "TIMEOUT"
  | other _ => "UNKNOWN_ERROR"

end DriverError

inductive Extent where
  | first
  | all
  deriving DecidableEq, Repr

/-- A source of elements, for programs in a monad. `findTogether` looks below several elements at
once and answers what was found below each, in their order. -/
structure Driver (m : Type → Type) (α : Type) where
  findRoot : Locator → ExceptT DriverError m α
  findFirst : α → Locator → ExceptT DriverError m α
  findAll : α → Locator → ExceptT DriverError m (List α)
  findTogether : Extent → List α → Locator → ExceptT DriverError m (List (List α))
  text : α → ExceptT DriverError m String
  runScript : String → ExceptT DriverError m (Scope α)

namespace Driver

variable {m : Type → Type} [Monad m] {α : Type}

def find (d : Driver m α) (extent : Extent) (a : α) (l : Locator) :
    ExceptT DriverError m (List α) :=
  match extent with
  | .first => do return [← d.findFirst a l]
  | .all => d.findAll a l

def findInTurn (d : Driver m α) (extent : Extent) (l : Locator) :
    List α → ExceptT DriverError m (List (List α))
  | [] => return []
  | a :: rest => do
    let found ← d.find extent a l
    return found :: (← d.findInTurn extent l rest)

end Driver

end LocatorPath
