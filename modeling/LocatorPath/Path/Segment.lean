import LocatorPath.Path.Written
import LocatorPath.Path.Error
import LocatorPath.Unicode.Character

/-! Reading a path: its segments, and the steps that they stand for. The forms of a segment are tried
in a fixed order: `this`, an index, an index after `all`, a text filter, a bare alias. -/
namespace LocatorPath
open Unicode (isDecimalDigit isBlank)

def readNumber (value : Nat) : List Char → Except NumberError UInt64
  | [] => .ok (.ofNat value)
  | c :: rest =>
    if !c.isDigit then .error .badDigit
    else
      let next := value * 10 + (c.toNat - '0'.toNat)
      if UInt64.size ≤ next then .error .tooLarge else readNumber next rest

inductive WrittenIndex where
  | first
  | last
  | nth (digits : List Char)
  | between (low high : List Char)
  | above (digits : List Char)
  | below (digits : List Char)
  deriving DecidableEq, Repr

def isDigits (cs : List Char) : Bool := !cs.isEmpty && cs.all isDecimalDigit

namespace WrittenIndex

def read? (cs : List Char) : Option WrittenIndex :=
  if cs == chars "FIRST" then some .first
  else if cs == chars "LAST" then some .last
  else
    match cs with
    | '>' :: digits => if isDigits digits then some (.above digits) else none
    | '<' :: digits => if isDigits digits then some (.below digits) else none
    | _ =>
      if isDigits cs then some (.nth cs)
      else
        match cs.dropWhile isDecimalDigit with
        | '-' :: high =>
          let low := cs.takeWhile isDecimalDigit
          if isDigits low && isDigits high then some (.between low high) else none
        | _ => none

def number (digits : List Char) : Except Malformation UInt64 :=
  (readNumber 0 digits).mapError (.badIndex (String.ofList digits))

def spec : WrittenIndex → Except Malformation IndexSpec
  | first => .ok (.exact .first)
  | last => .ok (.exact .last)
  | nth digits => do return .exact (.nth (← number digits))
  | between low high => do return .between (← number low) (← number high)
  | above digits => do return .above (← number digits)
  | below digits => do return .below (← number digits)

end WrittenIndex

def isLineText (cs : List Char) : Bool := !cs.isEmpty && cs.all (· != '\n')

def indexForm? : List Char → Option (WrittenIndex × List Char)
  | '#' :: cs => do
    let index ← WrittenIndex.read? (cs.takeWhile (· != ' '))
    let target ← (chars " of ").isPrefixOf? (cs.dropWhile (· != ' '))
    if isLineText target then some (index, target) else none
  | _ => none

/-- Cuts a text at the last occurrence of a separator that leaves something on both sides. -/
def cutLast? (separator : List Char) : List Char → Option (List Char × List Char)
  | [] => none
  | c :: rest =>
    match cutLast? separator rest with
    | some (before, after) => some (c :: before, after)
    | none =>
      match separator.isPrefixOf? rest with
      | some (d :: after) => some ([c], d :: after)
      | _ => none

inductive FilterKind where
  | contains
  | equals
  | pattern
  deriving DecidableEq, Repr

def filterForm? : List Char → Option (FilterKind × List Char × List Char)
  | '#' :: cs => (cutLast? (chars " in ") cs).map fun (value, target) => (.contains, value, target)
  | '@' :: cs => (cutLast? (chars " in ") cs).map fun (value, target) => (.equals, value, target)
  | '/' :: cs => (cutLast? (chars "/ in ") cs).map fun (value, target) => (.pattern, value, target)
  | _ => none

def textForm? (cs : List Char) : Option (Cardinality × FilterKind × List Char × List Char) :=
  if cs.any (· == '\n') then none
  else
    match (chars "all ").isPrefixOf? cs with
    | some rest => (filterForm? rest).map fun form => (.all, form)
    | none => (filterForm? cs).map fun form => (.first, form)

def readTarget (segment : String) (cs : List Char) : Except Malformation Target :=
  let name := Unicode.trim cs
  if name.isEmpty then .error (.missingAlias segment)
  else if name == chars "this" then .ok .this
  else .ok (.named (String.ofList name))

def readFilter (kind : FilterKind) (value : String) : Except ParseError TextFilter :=
  match kind with
  | .contains => .ok (.contains value)
  | .equals => .ok (.equals value)
  | .pattern =>
    match Pattern.read value with
    | .ok p => .ok (.pattern p)
    | .error cause => .error (.invalidRegex value cause)

def parseSegment (segment : String) : Except ParseError Step :=
  let cs := segment.toList
  if cs.isEmpty then .error (.malformed segment .emptySegment)
  else if cs == chars "this" then .ok .this
  else
    match indexForm? cs with
    | some (index, target) => (.mapError (.malformed segment) : Except _ _ → _) do
      let spec ← index.spec
      return ⟨← readTarget segment target, some (.index spec)⟩
    | none =>
      -- an index keeps one element, so `all` is refused whatever its number is
      if (((chars "all ").isPrefixOf? cs).bind indexForm?).isSome then
        .error (.allWithIndex segment)
      else
        match textForm? cs with
        | some (cardinality, kind, value, target) => do
          let filter ← readFilter kind (String.ofList value)
          let target ← (readTarget segment target).mapError (.malformed segment)
          return ⟨target, some (.text filter cardinality)⟩
        | none =>
          match cs with
          | '#' :: _ | '@' :: _ | '/' :: _ => .error (.malformed segment (.badModifier segment))
          | _ => .ok (.named segment)

def cutPieces : (afterHash : Bool) → List Char → List Char × List (List Char)
  | _, [] => ([], [])
  | afterHash, c :: rest =>
    let (piece, others) := cutPieces (c == '#') rest
    if c == '>' && !afterHash then ([], piece :: others) else (c :: piece, others)

def pieces (cs : List Char) : List (List Char) :=
  let (piece, others) := cutPieces false cs
  piece :: others

def parse (path : String) : Except ParseError (List Step) :=
  -- a blank path is refused as a whole, so its only piece is never read
  if path.toList.all Unicode.isBlank then .error (.malformed path .emptyPath)
  else
    (pieces path.toList).mapM fun piece =>
      (parseSegment (String.ofList (Unicode.trim piece))).mapError (·.within path)

end LocatorPath
