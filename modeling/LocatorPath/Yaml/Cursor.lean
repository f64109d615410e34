import LocatorPath.Octets

/-! A place in the text of a document, and the classes of characters that structure it. -/
namespace LocatorPath.Yaml

inductive Error where
  | notText
  | malformed (problem : String) (line column : Nat)
  | unexpectedToken (problem : String)
  | unknownAnchor (name : String)
  | severalDocuments
  | wrongType (expected : String)
  | wrongField (name : String)
  | tooDeep
  | tooManyAliases
  deriving DecidableEq, Repr

def Error.message : Error → String
  | notText => "control characters are not allowed"
  | malformed problem line column =>
    problem ++ " at line " ++ (line + 1).repr ++ " column " ++ (column + 1).repr
  | unexpectedToken problem => problem
  | unknownAnchor name => "unknown anchor '" ++ name ++ "'"
  | severalDocuments => "more than one document"
  | wrongType expected => "invalid type: expected " ++ expected
  | wrongField name => "missing or duplicate field '" ++ name ++ "'"
  | tooDeep => "recursion limit exceeded"
  | tooManyAliases => "repetition limit exceeded"

def isBreak (c : Char) : Bool :=
  c == '\n' || c == '\r' || c == '\x85' || c == '\u2028' || c == '\u2029'

def isSpace (c : Char) : Bool := c == ' ' || c == '\t'

def endsWord : Option Char → Bool
  | none => true
  | some c => isSpace c || isBreak c

def endsLine : Option Char → Bool
  | none => true
  | some c => isBreak c

def isNameChar (c : Char) : Bool := c.isAlphanum || c == '_' || c == '-'

def isAllowed (c : Char) : Bool :=
  let n := c.toNat
  n == 0x9 || n == 0xA || n == 0xD || (0x20 ≤ n && n ≤ 0x7E) || n == 0x85 ||
    (0xA0 ≤ n && n ≤ 0xFFFD) || 0x10000 ≤ n

structure Cursor where
  rest : List Char
  index : Nat := 0
  line : Nat := 0
  column : Nat := 0
  deriving DecidableEq, Repr

namespace Cursor

def head? (c : Cursor) : Option Char := c.rest.head?

def ahead? (c : Cursor) (places : Nat) : Option Char := c.rest[places]?

def fail {α : Type} (c : Cursor) (problem : String) : Except Error α :=
  .error (.malformed problem c.line c.column)

def skip (c : Cursor) : Cursor :=
  ⟨c.rest.tail, c.index + Octets.textSize (c.rest.take 1), c.line, c.column + 1⟩

def skipMany (c : Cursor) (count : Nat) : Cursor :=
  ⟨c.rest.drop count, c.index + Octets.textSize (c.rest.take count), c.line, c.column + count⟩

/-- Reads a line break. A carriage return and a line feed are one, and all but the two Unicode
separators come out as a line feed. -/
def readLine (c : Cursor) : List Char × Cursor :=
  match c.rest with
  | '\r' :: '\n' :: rest => (['\n'], ⟨rest, c.index + 2, c.line + 1, 0⟩)
  | ch :: rest =>
    if isBreak ch then
      ([if ch == '\u2028' || ch == '\u2029' then ch else '\n'],
        ⟨rest, c.index + ch.utf8Size, c.line + 1, 0⟩)
    else ([], c)
  | [] => ([], c)

def skipLine (c : Cursor) : Cursor := c.readLine.2

def span (c : Cursor) (p : Char → Bool) : List Char × Cursor :=
  let taken := c.rest.takeWhile p
  (taken, c.skipMany taken.length)

def skipWhile (c : Cursor) (p : Char → Bool) : Cursor := (c.span p).2

def skipToLineEnd (c : Cursor) : Cursor :=
  let c := c.skipWhile isSpace
  if c.head? == some '#' then c.skipWhile (!isBreak ·) else c

def atMark (c : Cursor) (mark : Char) : Bool :=
  c.column == 0 && c.ahead? 0 == some mark && c.ahead? 1 == some mark &&
    c.ahead? 2 == some mark && endsWord (c.ahead? 3)

def atDocumentMark (c : Cursor) : Bool := c.atMark '-' || c.atMark '.'

end Cursor

end LocatorPath.Yaml
