/-! The values that a WebDriver server is sent and answers with, and their compact text. -/
namespace LocatorPath

inductive JsonValue where
  | null
  | boolean (b : Bool)
  | number (n : Int)
  /-- A number with a fraction or an exponent, as it is written. -/
  | decimal (written : String)
  | text (s : String)
  | list (items : List JsonValue)
  | object (fields : List (String × JsonValue))
  deriving Inhabited, Repr

namespace JsonValue

def hexDigit (n : Nat) : Char := "0123456789abcdef".toList.getD n '0'

def quotedChar (c : Char) : List Char :=
  if c == '"' then ['\\', '"']
  else if c == '\\' then ['\\', '\\']
  else if c == '\n' then ['\\', 'n']
  else if c == '\r' then ['\\', 'r']
  else if c == '\t' then ['\\', 't']
  else if c == '\x08' then ['\\', 'b']
  else if c == '\x0c' then ['\\', 'f']
  else if c.toNat < 32 then
    ['\\', 'u', '0', '0', hexDigit (c.toNat / 16), hexDigit (c.toNat % 16)]
  else [c]

def quoted (s : String) : String :=
  "\"" ++ String.ofList (s.toList.flatMap quotedChar) ++ "\""

mutual

def compact : JsonValue → String
  | null => "null"
  | boolean true => "true"
  | boolean false => "false"
  | number n => toString n
  | decimal written => written
  | text s => quoted s
  | list items => "[" ++ ",".intercalate (compactItems items) ++ "]"
  | object fields => "\x7b" ++ ",".intercalate (compactFields fields) ++ "\x7d"

def compactItems : List JsonValue → List String
  | [] => []
  | v :: rest => v.compact :: compactItems rest

def compactFields : List (String × JsonValue) → List String
  | [] => []
  | (name, v) :: rest => (quoted name ++ ":" ++ v.compact) :: compactFields rest

end

def text? : JsonValue → Option String
  | text s => some s
  | _ => none

def field? (name : String) : JsonValue → Option JsonValue
  | object fields => fields.lookup name
  | _ => none

def isTrue : JsonValue → Bool
  | boolean b => b
  | _ => false

end JsonValue

end LocatorPath
