import LocatorPath.Files.Basic
import LocatorPath.Resolve.Path
import LocatorPath.Yaml.Decode

/-! Settings of the program, and the file that they are read from. -/
namespace LocatorPath
open Yaml (Document Node Decoder)

structure Config where
  webdriverUrl : Option String := none
  rootSelector : String := "html"
  definitions : Option String := none
  fanOut : FanOut := .concurrent
  deriving DecidableEq, Repr

inductive ConfigError where
  | io (e : FileError)
  | parse (e : Yaml.Error)
  deriving DecidableEq, Repr

def ConfigError.message : ConfigError → String
  | io e => "Failed to read config file: " ++ e.message
  | parse e => "Failed to parse config file: " ++ e.message

def ResolveOptions.ofConfig (c : Config) : ResolveOptions := ⟨.css c.rootSelector, c.fanOut⟩

namespace Config

def localName? (tag : Octets) : Option String := do
  match (← tag.text?).toList with
  | ['!'] => some "!"
  | '!' :: name => some (String.ofList name)
  | _ => none

def decodeFanOut (doc : Document) (node : Node) : Decoder FanOut := do
  let named (name : String) : Decoder FanOut :=
    match FanOut.ofName? name with
    | some f => return f
    | none => throw (.wrongType "concurrent or sequential")
  match ← doc.follow node with
  | .scalar tag style text =>
    match tag >>= localName? with
    | some name =>
      if style == .plain && (text.isEmpty || Yaml.isNull text) then named name
      else throw (.wrongType "unit variant")
    | none => named text
  | _ => throw (.wrongType "concurrent or sequential")

def readText (text : String) : Except Yaml.Error Config :=
  Yaml.decodeText text fun doc pairs => do
    let fields ← doc.fields ["webdriver_url", "root_selector", "definitions", "fan_out"] pairs
    return {
      webdriverUrl :=
        ← Document.defaulting fields "webdriver_url" none (doc.optional doc.text)
      rootSelector := ← Document.defaulting fields "root_selector" "html" doc.text
      definitions := ← Document.defaulting fields "definitions" none (doc.optional doc.text)
      fanOut := ← Document.defaulting fields "fan_out" .concurrent (decodeFanOut doc) }

def relativeTo (c : Config) (path : String) : Config :=
  match c.definitions with
  | some d => if isAbsolute d then c else {c with definitions := joinPath (directoryOf path) d}
  | none => c

variable {m : Type → Type} [Monad m]

def loadFrom (files : Files m) (path : String) : m (Except ConfigError Config) := do
  match ← files.read path with
  | .error e => return .error (.io e)
  | .ok text =>
    match readText text with
    | .error e => return .error (.parse e)
    | .ok c => return .ok (c.relativeTo path)

/-- The file in the working directory, else the one in the home directory, else the defaults. -/
def loadDefault (files : Files m) : m (Except ConfigError Config) := do
  if ← files.isPresent "./elpath.yaml" then loadFrom files "./elpath.yaml"
  else
    match files.home with
    | none => return .ok {}
    | some home =>
      let path := joinPath (joinPath home ".elpath") "config.yaml"
      if ← files.isPresent path then loadFrom files path else return .ok {}

end Config

end LocatorPath
