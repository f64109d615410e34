import LocatorPath.Regex.Basic
import LocatorPath.Regex.Flags
import LocatorPath.Unicode.Folding

/-! Escape sequences, which stand both outside and inside of character classes. -/
namespace LocatorPath.Regex
open Unicode (CharSet)

/-- What an escape sequence stands for. A literal written as two hexadecimal digits counts as a
byte where Unicode is off. A shorthand is written with a small letter, or with a capital for all
other characters. -/
inductive Escape where
  | literal (c : Char) (asByte : Bool)
  | shorthand (kind : Char) (negated : Bool)
  | property (members : CharSet) (negated : Bool)
  | look (condition : Look)
  deriving DecidableEq, Repr

def isMeta (c : Char) : Bool := "\\.+*?()|[]\x7b\x7d^$#&-~".toList.contains c

def isEscapable (c : Char) : Bool :=
  isMeta c || (c.toNat < 128 && !c.isAlphanum && c != '<' && c != '>')

def hexValue? (c : Char) : Option Nat :=
  if '0' ≤ c && c ≤ '9' then some (c.toNat - '0'.toNat)
  else if 'a' ≤ c && c ≤ 'f' then some (c.toNat - 'a'.toNat + 10)
  else if 'A' ≤ c && c ≤ 'F' then some (c.toNat - 'A'.toNat + 10)
  else none

def charOfHex? (digits : List Char) : Option Char :=
  if digits.isEmpty then none
  else
    let n := digits.foldl (fun n c => 16 * n + (hexValue? c).getD 0) 0
    if h : n.isValidChar then some (Char.ofNatAux n h) else none

def readHexDigits (verbose : Bool) : Nat → List Char → Option (List Char × List Char)
  | 0, cs => some ([], cs)
  | count + 1, cs =>
    match skip verbose cs with
    | [] => none
    | c :: rest =>
      if (hexValue? c).isSome then do
        let (digits, after) ← readHexDigits verbose count rest
        some (c :: digits, after)
      else none

def readHex (verbose : Bool) (count : Nat) (cs : List Char) :
    Except SyntaxError (Char × List Char) :=
  let read : Option (List Char × List Char) :=
    match skip verbose cs with
    | '\x7b' :: rest =>
      match takeSpaced verbose (fun c => (hexValue? c).isSome) false rest with
      | (digits, '\x7d' :: after) => some (digits, after)
      | _ => none
    | cs => readHexDigits verbose count cs
  match read with
  | none => .error .badHexDigits
  | some (digits, after) =>
    match charOfHex? digits with
    | some c => .ok (c, after)
    | none => .error .badHexDigits

def cutAt? (separator : List Char) : List Char → Option (List Char × List Char)
  | [] => none
  | c :: rest =>
    match separator.isPrefixOf? (c :: rest) with
    | some after => some ([], after)
    | none => (cutAt? separator rest).map fun (before, after) => (c :: before, after)

def propertySet (text : List Char) (negated : Bool) : Except SyntaxError Escape :=
  let answer (negated : Bool) : Option CharSet → Except SyntaxError Escape
    | some s => .ok (.property s negated)
    | none => .error .unknownProperty
  match cutAt? ['!', '='] text with
  | some (name, value) => answer (!negated) (Unicode.valued? name value)
  | none =>
    match cutAt? [':'] text <|> cutAt? ['='] text with
    | some (name, value) => answer negated (Unicode.valued? name value)
    | none => answer negated (Unicode.named? text)

def readProperty (verbose negated : Bool) (cs : List Char) :
    Except SyntaxError (Escape × List Char) :=
  match skip verbose cs with
  | [] => .error .badEscape
  | '\x7b' :: rest =>
    match takeSpaced verbose (· != '\x7d') false rest with
    | (text, _ :: after) => do return (← propertySet text negated, after)
    | (_, []) => .error .badEscape
  | c :: rest =>
    if c == '\\' then .error .badEscape else do return (← propertySet [c] negated, rest)

def readBoundary (verbose ascii : Bool) (cs : List Char) :
    Except SyntaxError (Escape × List Char) :=
  let isNameChar (c : Char) := c.isAlpha || c == '-'
  match cs with
  | '\x7b' :: rest =>
    match skip verbose rest with
    | [] => .error .badEscape
    | c :: _ =>
      if isNameChar c then
        match takeSpaced verbose isNameChar false rest with
        | (name, '\x7d' :: after) =>
          match String.ofList name with
          | "start" => .ok (.look (.wordStart ascii), after)
          | "end" => .ok (.look (.wordEnd ascii), after)
          | "start-half" => .ok (.look (.halfStart ascii), after)
          | "end-half" => .ok (.look (.halfEnd ascii), after)
          | _ => .error .badEscape
        | _ => .error .badEscape
      else .ok (.look (.boundary ascii), cs)
  | _ => .ok (.look (.boundary ascii), cs)

def readEscape (f : Flags) : List Char → Except SyntaxError (Escape × List Char)
  | [] => .error .badEscape
  | c :: rest =>
    let ascii := !f.unicode
    if '0' ≤ c && c ≤ '9' then .error .backReference
    else if isEscapable c then .ok (.literal c false, rest)
    else
      match c with
      | 'x' => do
        let braced := (skip f.verbose rest).head? == some '\x7b'
        let (c, after) ← readHex f.verbose 2 rest
        return (.literal c (!braced), after)
      | 'u' => do
        let (c, after) ← readHex f.verbose 4 rest
        return (.literal c false, after)
      | 'U' => do
        let (c, after) ← readHex f.verbose 8 rest
        return (.literal c false, after)
      | 'p' => readProperty f.verbose false rest
      | 'P' => readProperty f.verbose true rest
      | 'd' | 's' | 'w' => .ok (.shorthand c false, rest)
      | 'D' | 'S' | 'W' => .ok (.shorthand c.toLower true, rest)
      | 'a' => .ok (.literal '\x07' false, rest)
      | 'f' => .ok (.literal '\x0c' false, rest)
      | 't' => .ok (.literal '\t' false, rest)
      | 'n' => .ok (.literal '\n' false, rest)
      | 'r' => .ok (.literal '\r' false, rest)
      | 'v' => .ok (.literal '\x0b' false, rest)
      | 'A' => .ok (.look .textStart, rest)
      | 'z' => .ok (.look .textEnd, rest)
      | 'b' => readBoundary f.verbose ascii rest
      | 'B' => .ok (.look (.notBoundary ascii), rest)
      | '<' => .ok (.look (.wordStart ascii), rest)
      | '>' => .ok (.look (.wordEnd ascii), rest)
      | _ => .error .badEscape

def shorthandSet (f : Flags) (kind : Char) (negated : Bool) : Except SyntaxError CharSet :=
  if f.unicode then
    let s := match kind with
      | 'd' => Unicode.decimalDigits
      | 's' => Unicode.whiteSpace
      | _ => Unicode.wordCharacters
    .ok (if negated then s.complement else s)
  else if negated then .error .notUnicode
  else
    .ok (match kind with
      | 'd' => .ofRange 48 57
      | 's' => .ofRanges [(9, 13), (32, 32)]
      | _ => .ofRanges [(48, 57), (65, 90), (95, 95), (97, 122)])

def propertyMembers (f : Flags) (members : CharSet) (negated : Bool) :
    Except SyntaxError CharSet :=
  if f.unicode then
    let s := if f.ignoreCase then members.foldCase else members
    .ok (if negated then s.complement else s)
  else .error .notUnicode

end LocatorPath.Regex
