import LocatorPath.WebDriver.Value

/-! Reading the text of a JSON value. -/
namespace LocatorPath.JsonValue

def isBlankChar (c : Char) : Bool := c == ' ' || c == '\n' || c == '\r' || c == '\t'

def skipBlanks (cs : List Char) : List Char := cs.dropWhile isBlankChar

def hexValue? (c : Char) : Option Nat :=
  if c.isDigit then some (c.toNat - '0'.toNat)
  else if 'a' ≤ c && c ≤ 'f' then some (c.toNat - 'a'.toNat + 10)
  else if 'A' ≤ c && c ≤ 'F' then some (c.toNat - 'A'.toNat + 10)
  else none

def hexNumber? (cs : List Char) : Option Nat :=
  cs.foldlM (fun n c => (hexValue? c).map (16 * n + ·)) 0

def escaped? : Char → Option Char
  | '"' => some '"'
  | '\\' => some '\\'
  | '/' => some '/'
  | 'b' => some '\x08'
  | 'f' => some '\x0c'
  | 'n' => some '\n'
  | 'r' => some '\r'
  | 't' => some '\t'
  | _ => none

/-- The character of a code unit. Half of a pair alone is replaced. -/
def unitChar (n : Nat) : Char := if n.isValidChar then Char.ofNat n else '\ufffd'

def pairChar? (high low : Nat) : Option Char :=
  if 0xd800 ≤ high && high < 0xdc00 && 0xdc00 ≤ low && low < 0xe000 then
    some (Char.ofNat (0x10000 + (high - 0xd800) * 0x400 + (low - 0xdc00)))
  else none

def readQuoted : List Char → Option (List Char × List Char)
  | [] => none
  | '"' :: rest => some ([], rest)
  | '\\' :: 'u' :: a :: b :: c :: d :: rest => do
    let n ← hexNumber? [a, b, c, d]
    match rest with
    | '\\' :: 'u' :: a :: b :: c :: d :: after =>
      match hexNumber? [a, b, c, d] >>= pairChar? n with
      | some joined => do
        let (cs, after) ← readQuoted after
        return (joined :: cs, after)
      | none => do
        let (cs, after) ← readQuoted ('\\' :: 'u' :: a :: b :: c :: d :: after)
        return (unitChar n :: cs, after)
    | rest => do
      let (cs, after) ← readQuoted rest
      return (unitChar n :: cs, after)
  | '\\' :: c :: rest => do
    let c ← escaped? c
    let (cs, after) ← readQuoted rest
    return (c :: cs, after)
  | c :: rest => do
    let (cs, after) ← readQuoted rest
    return (c :: cs, after)

def isNumberChar (c : Char) : Bool :=
  c.isDigit || c == '-' || c == '+' || c == '.' || c == 'e' || c == 'E'

def ofNumeral? (cs : List Char) : Option JsonValue :=
  let s := String.ofList cs
  match s.toInt? with
  | some n => some (number n)
  | none => if cs.any Char.isDigit then some (decimal s) else none

def readName (cs : List Char) : Option (JsonValue × List Char) :=
  match cs.span Char.isAlpha with
  | (['t', 'r', 'u', 'e'], rest) => some (boolean true, rest)
  | (['f', 'a', 'l', 's', 'e'], rest) => some (boolean false, rest)
  | (['n', 'u', 'l', 'l'], rest) => some (null, rest)
  | _ => none

mutual

def readValue : (fuel : Nat) → List Char → Option (JsonValue × List Char)
  | 0, _ => none
  | fuel + 1, cs =>
    match skipBlanks cs with
    | '"' :: rest => (readQuoted rest).map fun (s, rest) => (text (String.ofList s), rest)
    | '[' :: rest =>
      match skipBlanks rest with
      | ']' :: rest => some (list [], rest)
      | rest => (readItems fuel rest).map fun (items, rest) => (list items, rest)
    | '\x7b' :: rest =>
      match skipBlanks rest with
      | '\x7d' :: rest => some (object [], rest)
      | rest => (readFields fuel rest).map fun (fields, rest) => (object fields, rest)
    | c :: rest =>
      if c.isAlpha then readName (c :: rest)
      else
        let (numeral, rest) := (c :: rest).span isNumberChar
        (ofNumeral? numeral).map fun v => (v, rest)
    | [] => none

def readItems : (fuel : Nat) → List Char → Option (List JsonValue × List Char)
  | 0, _ => none
  | fuel + 1, cs => do
    let (v, rest) ← readValue fuel cs
    match skipBlanks rest with
    | ',' :: rest => do
      let (others, rest) ← readItems fuel rest
      return (v :: others, rest)
    | ']' :: rest => return ([v], rest)
    | _ => none

def readFields : (fuel : Nat) → List Char → Option (List (String × JsonValue) × List Char)
  | 0, _ => none
  | fuel + 1, cs =>
    match skipBlanks cs with
    | '"' :: rest => do
      let (name, rest) ← readQuoted rest
      match skipBlanks rest with
      | ':' :: rest => do
        let (v, rest) ← readValue fuel rest
        match skipBlanks rest with
        | ',' :: rest => do
          let (others, rest) ← readFields fuel rest
          return ((String.ofList name, v) :: others, rest)
        | '\x7d' :: rest => return ([(String.ofList name, v)], rest)
        | _ => none
      | _ => none
    | _ => none

end

def ofText? (s : String) : Option JsonValue := do
  let (v, rest) ← readValue (s.toList.length + 1) s.toList
  if (skipBlanks rest).isEmpty then some v else none

end LocatorPath.JsonValue
