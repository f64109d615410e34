import LocatorPath.CommandLine.Output
import LocatorPath.WebDriver.Client

/-! The program: it reads its settings and definitions, opens a session and answers each path with
the texts it leads to. A path that fails does not keep the others from being answered. A verbose run
also logs lines for debugging, many of which come from libraries; they are left out. -/
namespace LocatorPath

structure Host (m : Type → Type) (α : Type) where
  files : Files m
  server : String → m (Wire m α)
  emit : Output → m Unit

inductive Exit where
  | success
  | failure
  | usage
  deriving DecidableEq, Repr

def Exit.code : Exit → Nat
  | success => 0
  | failure => 1
  | usage => 2

def defaultServerUrl : String := "http://localhost:4444"

def versionText : String := "elpath-e 0.1.0"

def helpText : String :=
  "Usage: elpath-e [OPTIONS] <PATHS>...\n\nArguments:\n" ++
  "  <PATHS>...  Locator paths, e.g. \"#2 of list > title\"\n\nOptions:\n" ++
  "  -w, --webdriver-url <WEBDRIVER_URL>  " ++
  "URL of the WebDriver server. Falls back to the config file, then localhost:4444\n" ++
  "  -c, --config <CONFIG>                " ++
  "Config file. Defaults to ./elpath.yaml or ~/.elpath/config.yaml\n" ++
  "  -d, --definitions <DEFINITIONS>      Definition tree (YAML)\n" ++
  "  -u, --url <URL>                      " ++
  "Page to open before resolving. Without it the session's current page is used\n" ++
  "  -v, --verbose                        Verbose logging\n" ++
  "  -h, --help                           Print help\n" ++
  "  -V, --version                        Print version"

namespace Host

variable {m : Type → Type} [Monad m] {α : Type}

def info (h : Host m α) (origin : Origin) (message : String) : m Unit :=
  h.emit (.log .info origin message)

def error (h : Host m α) (message : String) : m Unit := h.emit (.log .error .program message)

def complain (h : Host m α) (c : Complaint) : m Exit := do
  h.emit (.complaint c)
  return .failure

def printAll (h : Host m α) : List String → m Unit
  | [] => return
  | line :: rest => do
    h.emit (.text line)
    h.printAll rest

def answerPath (h : Host m α) (r : Resolver (Client.Session m) α) (path : String) :
    Client.Session m Bool := do
  match ← (r.textOf path).run with
  | .ok texts =>
    StateT.lift (h.printAll ((path ++ ":") :: texts.map fun text => "  " ++ text))
    return true
  | .error e =>
    StateT.lift (h.error (path ++ ": " ++ e.describe))
    return false

def answerPaths (h : Host m α) (r : Resolver (Client.Session m) α) :
    List String → Client.Session m Bool
  | [] => return true
  | path :: rest => do
    let resolved ← h.answerPath r path
    let others ← h.answerPaths r rest
    return resolved && others

/-- Ends a session. The program has the given exit if that works. -/
def closeWith (h : Host m α) (w : Wire m α) (exit : Exit) : m Exit := do
  match ← (Client.close w).run with
  | .ok () => return exit
  | .error e => h.complain (.session (Client.closeFailure e))

def openPage (h : Host m α) (w : Wire m α) : Option String → ExceptT String m Unit
  | none => return
  | some url => do
    h.info .session ("Navigating to: " ++ url)
    ExceptT.adapt (Client.visitFailure url) (Client.visit w url)

def inSession (h : Host m α) (w : Wire m α) (a : Arguments) (config : Config)
    (registry : Registry) : m Exit := do
  match ← (h.openPage w a.url).run with
  | .error message => do
    h.error message
    h.closeWith w .failure
  | .ok () =>
    let resolver : Resolver (Client.Session m) α :=
      ⟨Client.driver w, registry, ResolveOptions.ofConfig config⟩
    let (resolved, _) ← (h.answerPaths resolver a.paths).run 0
    h.closeWith w (if resolved then .success else .failure)

def withSession (h : Host m α) (a : Arguments) (config : Config) (registry : Registry) :
    m Exit := do
  let url := (a.webdriverUrl <|> config.webdriverUrl).getD defaultServerUrl
  h.info .session ("Connecting to WebDriver at " ++ url ++ "...")
  let w ← h.server url
  match ← (Client.connect w []).run with
  | .error e => h.complain (.session (Client.connectFailure url e))
  | .ok () => h.inSession w a config registry

def loadConfig (h : Host m α) : Option String → m (Except ConfigError Config)
  | some path => Config.loadFrom h.files path
  | none => Config.loadDefault h.files

def resolvePaths (h : Host m α) (a : Arguments) : m Exit := do
  match ← h.loadConfig a.config with
  | .error e => h.complain (.config e)
  | .ok config =>
    match a.definitions <|> config.definitions with
    | none => do
      h.error "No definition file given. Pass --definitions or set \x60definitions\x60 in the config."
      return .failure
    | some path =>
      match ← Registry.loadFrom h.files path with
      | .error e => h.complain (.definitions e)
      | .ok registry => do
        h.info .program ("Loaded " ++ registry.size.repr ++ " definitions from " ++ path)
        h.withSession a config registry

def run (h : Host m α) (arguments : List String) : m Exit := do
  match Arguments.read arguments with
  | .error e => do
    h.emit (.complaint (.usage e))
    return .usage
  | .ok .help => do
    h.emit (.text helpText)
    return .success
  | .ok .version => do
    h.emit (.text versionText)
    return .success
  | .ok (.resolve a) => h.resolvePaths a

end Host

end LocatorPath
