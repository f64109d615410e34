import LocatorPath.WebDriver.Command
import LocatorPath.WebDriver.Value.Read

/-! What is sent to a WebDriver server for a command, and how its answer is understood. Elements and
sessions are named by texts that the server chooses. -/
namespace LocatorPath.Exchange

inductive Method where
  | get
  | post
  | delete
  deriving DecidableEq, Repr

def Method.name : Method → String
  | get => "GET"
  | post => "POST"
  | delete => "DELETE"

structure Query where
  method : Method
  path : String
  body : Option JsonValue := none
  deriving Repr

structure Answer where
  status : Nat
  body : String
  deriving DecidableEq, Repr

def locating (using_ : Using) (value : String) : JsonValue :=
  .object [("using", .text using_.name), ("value", .text value)]

def running (script : String) : JsonValue :=
  .object [("script", .text script), ("args", .list [])]

def query (session : String) : Command String → Query
  | .newSession capabilities =>
    ⟨.post, "/session", some (.object [("capabilities",
      .object [("firstMatch", .list [.object []]), ("alwaysMatch", capabilities)])])⟩
  | .deleteSession => ⟨.delete, "/session/" ++ session, none⟩
  | .currentUrl => ⟨.get, inSession "/url", none⟩
  | .goTo url => ⟨.post, inSession "/url", some (.object [("url", .text url)])⟩
  | .findRoot u value => ⟨.post, inSession "/element", some (locating u value)⟩
  | .find .first a u value => ⟨.post, ofElement a "/element", some (locating u value)⟩
  | .find .all a u value => ⟨.post, ofElement a "/elements", some (locating u value)⟩
  | .text a => ⟨.get, ofElement a "/text", none⟩
  | .tag source mark =>
    ⟨.post, inSession "/execute/sync",
      some (running (Tag.taggingScript source (Tag.markText mark)))⟩
  | .findTagged mark =>
    ⟨.post, inSession "/elements", some (locating .css (Tag.selector (Tag.markText mark)))⟩
  | .readTag a => ⟨.get, ofElement a ("/attribute/" ++ Tag.attributeName), none⟩
  | .untag mark =>
    ⟨.post, inSession "/execute/sync", some (running (Tag.untaggingScript (Tag.markText mark)))⟩
where
  inSession (path : String) : String := "/session/" ++ session ++ path
  ofElement (a path : String) : String := inSession ("/element/" ++ a ++ path)

def elementField : String := "element-6066-11e4-a52e-4f735466cecf"

def element? (v : JsonValue) : Option String := v.field? elementField >>= JsonValue.text?

def elements? : JsonValue → Option (List String)
  | .list items => items.mapM element?
  | _ => none

def value (a : Answer) : Except CommandError JsonValue :=
  match JsonValue.ofText? a.body >>= JsonValue.field? "value" with
  | none => .error .unexpected
  | some v =>
    if a.status < 400 then .ok v
    else
      match v.field? "error" >>= JsonValue.text?, v.field? "message" >>= JsonValue.text? with
      | some code, some message => .error (.answered code message)
      | _, _ => .error .unexpected

def session? (v : JsonValue) : Option String := v.field? "sessionId" >>= JsonValue.text?

def reply? (v : JsonValue) : Command String → Option (Reply String)
  | .newSession _ | .deleteSession | .goTo _ | .untag _ => some .done
  | .currentUrl => v.text?.map .url
  | .findRoot _ _ | .find .first _ _ _ => (element? v).map .element
  | .find .all _ _ _ | .findTagged _ => (elements? v).map .elements
  | .text _ => v.text?.map .text
  | .tag _ _ => some (.summary v)
  | .readTag _ =>
    match v with
    | .null => some (.tag none)
    | v => v.text?.map fun s => .tag (some s)

def reply (a : Answer) (c : Command String) : Except CommandError (Reply String) :=
  match value a with
  | .error e => .error e
  | .ok v =>
    match reply? v c with
    | some r => .ok r
    | none => .error .unexpected

end LocatorPath.Exchange
