import LocatorPath.CommandLine.Arguments
import LocatorPath.Config
import LocatorPath.Definition.File

/-! What the program writes: texts and log lines on the standard output, and what ends it early on
the standard error. There an error is spelled as the value that it is, with its texts in quotation
marks. What a library has to say about a file stands as one text. -/
namespace LocatorPath

inductive Level where
  | debug
  | info
  | error
  deriving DecidableEq, Repr

def Level.name : Level → String
  | debug => "DEBUG"
  | info => "INFO"
  | error => "ERROR"

inductive Origin where
  | program
  | session
  deriving DecidableEq, Repr

def Origin.name : Origin → String
  | program => "elpath_e"
  | session => "elpath_e::webdriver"

inductive Complaint where
  | usage (e : UsageError)
  | config (e : ConfigError)
  | definitions (e : LoadError)
  | session (message : String)
  deriving DecidableEq, Repr

namespace Complaint

def hidden : Unicode.CharSet :=
  (Unicode.unionOf Unicode.categories ["cc", "cf", "cn", "co", "zl", "zp", "zs"]).union
    (Unicode.unionOf Unicode.properties ["graphemeextend"])

def quotedChar (c : Char) : List Char :=
  match c with
  | '\x00' => ['\\', '0']
  | '\t' => ['\\', 't']
  | '\r' => ['\\', 'r']
  | '\n' => ['\\', 'n']
  | '"' => ['\\', '"']
  | '\\' => ['\\', '\\']
  | ' ' => [' ']
  | c =>
    if hidden.contains c then "\\u\x7b".toList ++ Nat.toDigits 16 c.toNat ++ ['\x7d'] else [c]

def quoted (s : String) : String := "\"" ++ String.ofList (s.toList.flatMap quotedChar) ++ "\""

def spelledCause : RegistryError → String
  | .unknownStrategy name => "UnknownStrategy(" ++ quoted name ++ ")"
  | .duplicateAlias name => "DuplicateAlias(" ++ quoted name ++ ")"
  | .emptyAlias => "EmptyAlias"

def render : Complaint → String
  | usage e => "error: " ++ e.message
  | config (.io e) => "Error: Io(" ++ quoted e.message ++ ")"
  | config (.parse e) => "Error: Parse(" ++ quoted e.message ++ ")"
  | definitions (.io e) => "Error: Io(" ++ quoted e.message ++ ")"
  | definitions (.yaml e) => "Error: Yaml(" ++ quoted e.message ++ ")"
  | definitions (.definition e) =>
    "Error: Registry \x7b alias: " ++ quoted e.name ++ ", source: " ++ spelledCause e.cause ++ " \x7d"
  | session message => "Error: " ++ quoted message

end Complaint

inductive Output where
  | text (line : String)
  | log (level : Level) (origin : Origin) (message : String)
  | complaint (c : Complaint)
  deriving DecidableEq, Repr

namespace Output

def octetDigits (n : Nat) : List Char :=
  ["0123456789abcdef".toList.getD (n / 16) '0', "0123456789abcdef".toList.getD (n % 16) '0']

/-- Control characters that a terminal acts on are written out, line breaks and tabs are not. -/
def visibleChar (c : Char) : List Char :=
  if c == '\x1b' || c == '\x07' || c == '\x08' || c == '\x0c' || c == '\x7f' then
    '\\' :: 'x' :: octetDigits c.toNat
  else if 0x80 ≤ c.toNat && c.toNat ≤ 0x9f then
    '\\' :: 'u' :: '\x7b' :: octetDigits c.toNat ++ ['\x7d']
  else [c]

def visible (s : String) : String := String.ofList (s.toList.flatMap visibleChar)

def render : Output → String
  | text line => line
  | log level origin message => level.name ++ " " ++ origin.name ++ ": " ++ visible message
  | complaint c => c.render

end Output

end LocatorPath
