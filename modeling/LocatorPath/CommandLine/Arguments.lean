/-! The arguments that the program is started with. Options stand anywhere between the paths, up to
two hyphens that end them. -/
namespace LocatorPath

structure Arguments where
  webdriverUrl : Option String := none
  config : Option String := none
  definitions : Option String := none
  url : Option String := none
  verbose : Bool := false
  paths : List String := []
  deriving DecidableEq, Repr

inductive Setting where
  | webdriverUrl
  | config
  | definitions
  | url
  deriving DecidableEq, Repr

def Setting.name : Setting → String
  | webdriverUrl => "webdriver-url"
  | config => "config"
  | definitions => "definitions"
  | url => "url"

def Setting.isPath : Setting → Bool
  | config | definitions => true
  | webdriverUrl | url => false

inductive Switch where
  | setting (s : Setting)
  | verbose
  | help
  | version
  deriving DecidableEq, Repr

def Switch.name : Switch → String
  | setting s => s.name
  | verbose => "verbose"
  | help => "help"
  | version => "version"

def Switch.all : List Switch :=
  [.setting .webdriverUrl, .setting .config, .setting .definitions, .setting .url, .verbose, .help,
    .version]

def Switch.ofName? (name : String) : Option Switch := all.find? fun s => s.name == name

def Switch.ofLetter? : Char → Option Switch
  | 'w' => some (.setting .webdriverUrl)
  | 'c' => some (.setting .config)
  | 'd' => some (.setting .definitions)
  | 'u' => some (.setting .url)
  | 'v' => some .verbose
  | 'h' => some .help
  | 'V' => some .version
  | _ => none

inductive Request where
  | resolve (a : Arguments)
  | help
  | version
  deriving DecidableEq, Repr

inductive UsageError where
  | unknown (option : String)
  | missingValue (s : Setting)
  | emptyValue (s : Setting)
  | unexpectedValue (s : Switch)
  | repeated (s : Switch)
  | noPaths
  deriving DecidableEq, Repr

def UsageError.message : UsageError → String
  | unknown option => "unexpected argument '" ++ option ++ "'"
  | missingValue s => "a value is required for '--" ++ s.name ++ "'"
  | emptyValue s => "the value of '--" ++ s.name ++ "' cannot be empty"
  | unexpectedValue s => "'--" ++ s.name ++ "' takes no value"
  | repeated s => "'--" ++ s.name ++ "' cannot be used multiple times"
  | noPaths => "at least one path is required"

namespace Arguments

def value? (a : Arguments) : Setting → Option String
  | .webdriverUrl => a.webdriverUrl
  | .config => a.config
  | .definitions => a.definitions
  | .url => a.url

def withValue (a : Arguments) (value : String) : Setting → Arguments
  | .webdriverUrl => {a with webdriverUrl := some value}
  | .config => {a with config := some value}
  | .definitions => {a with definitions := some value}
  | .url => {a with url := some value}

def give (a : Arguments) (s : Setting) (value : String) : Except UsageError Arguments :=
  if s.isPath && value.isEmpty then .error (.emptyValue s)
  else if (a.value? s).isSome then .error (.repeated (.setting s))
  else .ok (a.withValue value s)

/-- What an argument leaves to do: to go on, to take the next argument as a value, or to answer
without looking at the rest. -/
inductive Progress where
  | more (a : Arguments)
  | expects (s : Setting) (a : Arguments)
  | asks (r : Request)
  deriving DecidableEq, Repr

def beVerbose (a : Arguments) : Except UsageError Arguments :=
  if a.verbose then .error (.repeated .verbose) else .ok {a with verbose := true}

def readLetters (a : Arguments) : List Char → Except UsageError Progress
  | [] => .ok (.more a)
  | c :: rest =>
    match Switch.ofLetter? c with
    | none => .error (.unknown (String.ofList ['-', c]))
    | some .help => .ok (.asks .help)
    | some .version => .ok (.asks .version)
    | some .verbose => do (← a.beVerbose).readLetters rest
    | some (.setting s) =>
      match rest with
      | [] => .ok (.expects s a)
      | '=' :: value => .more <$> a.give s (String.ofList value)
      | value => .more <$> a.give s (String.ofList value)

def readName (a : Arguments) (name : String) (value : Option String) :
    Except UsageError Progress :=
  match Switch.ofName? name, value with
  | none, _ => .error (.unknown ("--" ++ name))
  | some (.setting s), none => .ok (.expects s a)
  | some (.setting s), some value => .more <$> a.give s value
  | some s, some _ => .error (.unexpectedValue s)
  | some .verbose, none => .more <$> a.beVerbose
  | some .help, none => .ok (.asks .help)
  | some .version, none => .ok (.asks .version)

def readLong (a : Arguments) (cs : List Char) : Except UsageError Progress :=
  let name := String.ofList (cs.takeWhile (· != '='))
  match cs.dropWhile (· != '=') with
  | [] => a.readName name none
  | _ :: value => a.readName name (some (String.ofList value))

def readOne (a : Arguments) (argument : String) : Except UsageError Progress :=
  match argument.toList with
  | '-' :: '-' :: name => a.readLong name
  | '-' :: c :: letters => a.readLetters (c :: letters)
  | _ => .ok (.more {a with paths := a.paths ++ [argument]})

def isOption (argument : String) : Bool :=
  match argument.toList with
  | '-' :: _ :: _ => true
  | _ => false

def finish (a : Arguments) : Except UsageError Request :=
  if a.paths.isEmpty then .error .noPaths else .ok (.resolve a)

def readFrom (a : Arguments) : List String → Except UsageError Request
  | [] => a.finish
  | argument :: rest =>
    if argument == "--" then {a with paths := a.paths ++ rest}.finish
    else
      match a.readOne argument, rest with
      | .error e, _ => .error e
      | .ok (.more a), rest => a.readFrom rest
      | .ok (.asks r), _ => .ok r
      | .ok (.expects s _), [] => .error (.missingValue s)
      | .ok (.expects s a), value :: rest =>
        if isOption value then .error (.missingValue s)
        else
          match a.give s value with
          | .error e => .error e
          | .ok a => a.readFrom rest

def read (arguments : List String) : Except UsageError Request :=
  ({} : Arguments).readFrom arguments

end Arguments

end LocatorPath
