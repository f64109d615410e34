import LocatorPath.Path.Step
import LocatorPath.WebDriver.Address
import LocatorPath.WebDriver.Command

/-! A driver that sends WebDriver commands. The result of a script cannot be handed over as
elements, so its nodes are tagged, found by their tags, put into the order of the script and freed
of the tags again. -/
namespace LocatorPath.Client

variable {m : Type → Type} [Monad m] {α : Type}

def connect (w : Wire m α) (capabilities : List (String × JsonValue)) :
    ExceptT CommandError m Unit := do
  let _ ← w (.newSession (.object capabilities))

def connectFailure (serverUrl : String) (e : CommandError) : String :=
  "Failed to connect to WebDriver at " ++ serverUrl ++ ": " ++ e.sessionMessage

def close (w : Wire m α) : ExceptT CommandError m Unit := do
  let _ ← w .deleteSession

def closeFailure (e : CommandError) : String := "Failed to close session: " ++ e.message

inductive VisitError where
  | command (e : CommandError)
  | address (e : AddressError)
  deriving DecidableEq, Repr

def VisitError.message : VisitError → String
  | command e => e.message
  | address e => "bad url provided: " ++ e.message

def visitFailure (url : String) (e : VisitError) : String :=
  "Failed to navigate to " ++ url ++ ": " ++ e.message

def visit (w : Wire m α) (url : String) : ExceptT VisitError m Unit := do
  let base ← ExceptT.adapt VisitError.command (w.askUrl .currentUrl)
  match Address.read base >>= fun base => base.join url with
  | .error e => throw (.address e)
  | .ok target =>
    let _ ← ExceptT.adapt VisitError.command (w (.goTo target.written))

def supported : Locator → Except DriverError (Using × String)
  | .find .css value => .ok (.css, value)
  | .find .xpath value => .ok (.xpath, value)
  | .find u _ => .error (.unsupportedLocator u.name)
  | .script _ => .error (.unsupportedLocator "script")

def elementError (e : CommandError) : DriverError :=
  -- by the words of the message: the code is not asked
  if isPartOf "stale element".toList e.message.toList then .staleElement e.message
  else .other e.message

def findError (l : Locator) (e : CommandError) : DriverError :=
  match e with
  | .answered "no such element" _ => .noSuchElement l.render
  | e => elementError e

def scriptError (e : CommandError) : DriverError := .script e.message

def findRoot (w : Wire m α) (l : Locator) : ExceptT DriverError m α :=
  match supported l with
  | .error e => throw e
  | .ok (u, value) => ExceptT.adapt (findError l) (w.askElement (.findRoot u value))

def findFirst (w : Wire m α) (a : α) (l : Locator) : ExceptT DriverError m α :=
  match supported l with
  | .error e => throw e
  | .ok (u, value) => ExceptT.adapt (findError l) (w.askElement (.find .first a u value))

def findAll (w : Wire m α) (a : α) (l : Locator) : ExceptT DriverError m (List α) :=
  match supported l with
  | .error e => throw e
  | .ok (u, value) => ExceptT.adapt (findError l) (w.askElements (.find .all a u value))

def find (w : Wire m α) (extent : Extent) (l : Locator) (a : α) :
    ExceptT DriverError m (List α) :=
  match extent with
  | .first => do return [← findFirst w a l]
  | .all => findAll w a l

/-- Sends all finds before it looks at their answers, and fails with the first failure among
them. -/
def findEach (w : Wire m α) (extent : Extent) (l : Locator) :
    List α → m (Except DriverError (List (List α)))
  | [] => return .ok []
  | a :: rest => do
    let found ← (find w extent l a).run
    let others ← findEach w extent l rest
    return (do return (← found) :: (← others))

def findTogether (w : Wire m α) (extent : Extent) (as : List α) (l : Locator) :
    ExceptT DriverError m (List (List α)) :=
  match supported l, as with
  -- without an element there is no find that could be refused
  | .error e, _ :: _ => throw e
  | _, _ => findEach w extent l as

def text (w : Wire m α) (a : α) : ExceptT DriverError m String :=
  ExceptT.adapt elementError (w.askText (.text a))

def readPlaces (w : Wire m α) (mark : Tag.Mark) :
    List α → ExceptT DriverError m (List (Nat × α))
  | [] => return []
  | a :: rest => do
    let value ← ExceptT.adapt elementError (w.askTag (.readTag a))
    let others ← readPlaces w mark rest
    return (Tag.order (Tag.markText mark) value, a) :: others

def findTagged (w : Wire m α) (mark : Tag.Mark) : ExceptT DriverError m (List α) := do
  let l := Locator.find .css (Tag.selector (Tag.markText mark))
  let found ← ExceptT.adapt (findError l) (w.askElements (.findTagged mark))
  let places ← readPlaces w mark found
  return (places.mergeSort fun p q => p.1 ≤ q.1).map Prod.snd

def resultOf (summary : JsonValue) (found : List α) : Except DriverError (Scope α) :=
  if (summary.field? "list").any JsonValue.isTrue then .ok (.many found)
  else
    match found with
    | a :: _ => .ok (.one a)
    | [] => .error (.script "script returned no element")

/-- Runs a script under a mark. Whether or not the nodes are found, their tags are taken off, and
of two failures the earlier one counts. -/
def runMarked (w : Wire m α) (source : String) (mark : Tag.Mark) :
    ExceptT DriverError m (Scope α) := ExceptT.mk do
  match ← (w.askSummary (.tag source mark)).run with
  -- nothing is taken off here, though the wrapper may have come to some nodes
  | .error e => return .error (scriptError e)
  | .ok summary =>
    let found ← (findTagged w mark).run
    let untagged ← (w (.untag mark)).run
    return match found, untagged with
      | .error e, _ => .error e
      | .ok _, .error e => .error (scriptError e)
      | .ok as, .ok _ => resultOf summary as

abbrev Session (m : Type → Type) := StateT Tag.Mark m

def plain {β : Type} (action : ExceptT DriverError m β) : ExceptT DriverError (Session m) β :=
  ExceptT.mk (StateT.lift action.run)

def runScript (w : Wire m α) (source : String) : ExceptT DriverError (Session m) (Scope α) :=
  ExceptT.mk do
    let mark ← get
    set (mark + 1)
    StateT.lift (runMarked w source mark).run

def driver (w : Wire m α) : Driver (Session m) α where
  findRoot l := plain (findRoot w l)
  findFirst a l := plain (findFirst w a l)
  findAll a l := plain (findAll w a l)
  findTogether extent as l := plain (findTogether w extent as l)
  text a := plain (text w a)
  runScript := runScript w

end LocatorPath.Client
