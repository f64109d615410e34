import LocatorPath.Driver
import LocatorPath.WebDriver.Tag
import LocatorPath.WebDriver.Value

/-! The commands of a WebDriver session, what a server answers to them, and its errors. -/
namespace LocatorPath

inductive Command (α : Type) where
  | newSession (capabilities : JsonValue)
  | deleteSession
  | currentUrl
  | goTo (url : String)
  | findRoot (using_ : Using) (value : String)
  | find (extent : Extent) (a : α) (using_ : Using) (value : String)
  | text (a : α)
  | tag (source : String) (mark : Tag.Mark)
  | findTagged (mark : Tag.Mark)
  | readTag (a : α)
  | untag (mark : Tag.Mark)
  deriving Repr

inductive Reply (α : Type) where
  | done
  | url (text : String)
  | element (a : α)
  | elements (as : List α)
  | text (text : String)
  | tag (value : Option String)
  | summary (value : JsonValue)
  deriving Repr

inductive CommandError where
  | unreachable
  | answered (code message : String)
  | unexpected
  deriving DecidableEq, Repr

namespace CommandError

def message : CommandError → String
  | unreachable => "webdriver server did not respond (legacy client): client error (Connect)"
  | answered _ message => "webdriver returned error: " ++ message
  | unexpected => "webdriver server gave non-conformant response"

def sessionMessage : CommandError → String
  | answered _ message => "webdriver did not create session: " ++ message
  | e => e.message

end CommandError

abbrev Wire (m : Type → Type) (α : Type) := Command α → ExceptT CommandError m (Reply α)

namespace Wire

variable {m : Type → Type} [Monad m] {α : Type}

def askElement (w : Wire m α) (c : Command α) : ExceptT CommandError m α := do
  match ← w c with
  | .element a => return a
  | _ => throw .unexpected

def askElements (w : Wire m α) (c : Command α) : ExceptT CommandError m (List α) := do
  match ← w c with
  | .elements as => return as
  | _ => throw .unexpected

def askText (w : Wire m α) (c : Command α) : ExceptT CommandError m String := do
  match ← w c with
  | .text text => return text
  | _ => throw .unexpected

def askTag (w : Wire m α) (c : Command α) : ExceptT CommandError m (Option String) := do
  match ← w c with
  | .tag value => return value
  | _ => throw .unexpected

def askSummary (w : Wire m α) (c : Command α) : ExceptT CommandError m JsonValue := do
  match ← w c with
  | .summary value => return value
  | _ => throw .unexpected

def askUrl (w : Wire m α) (c : Command α) : ExceptT CommandError m String := do
  match ← w c with
  | .url text => return text
  | _ => throw .unexpected

end Wire

end LocatorPath
