import LocatorPath.Regex.Class
import LocatorPath.Regex.Memory
import LocatorPath.Regex.Simplify
import LocatorPath.Unicode.Lookup

/-! Reading a regular expression. The text is read once from the left, with the groups that are
open on a stack. -/
namespace LocatorPath.Regex
open Unicode (CharSet)

structure Part where
  regex : Regex
  depth : Nat := 0
  repeatable : Bool := true
  deriving Repr

namespace Part

def nothing : Part := {regex := .empty, repeatable := false}

def combine (join : List Regex → Regex) : List Part → Part
  | [] => nothing
  | [p] => p
  | ps =>
    {regex := join (ps.map Part.regex).reverse
     depth := ps.foldl (fun n p => max n p.depth) 0 + 1}

def ofConcat (ps : List Part) : Part := combine Regex.ofConcat ps

def ofAlternatives (ps : List Part) : Part := combine Regex.ofAlternatives ps

def repeated (p : Part) (low : Nat) (high : Option Nat) (greedy : Bool) : Part :=
  {regex := .ofRepetition p.regex low high greedy, depth := p.depth + 1}

end Part

def maxDepth : Nat := 250

/-- A group around the place being read: what stood before it, the flags to go back to, and the
number of a capturing group. -/
structure Level where
  parts : List Part
  alternatives : List Part
  flags : Flags
  number : Option Nat
  deriving Repr

structure State where
  flags : Flags := {}
  parts : List Part := []
  alternatives : List Part := []
  levels : List Level := []
  captures : Nat := 0
  names : List String := []
  deriving Repr

namespace State

def push (s : State) (p : Part) : State := {s with parts := p :: s.parts}

def group (s : State) : Part := .ofAlternatives (.ofConcat s.parts :: s.alternatives)

def openGroup (s : State) (inner : Flags) (number : Option Nat) : State :=
  {s with
    flags := inner, parts := [], alternatives := []
    levels := ⟨s.parts, s.alternatives, s.flags, number⟩ :: s.levels}

def openCapture (s : State) : State :=
  {s with captures := s.captures + 1}.openGroup s.flags (some (s.captures + 1))

def closeGroup (s : State) : Except SyntaxError State :=
  match s.levels with
  | [] => .error .unopenedGroup
  | level :: levels =>
    let inner := s.group
    let part : Part :=
      {regex := level.number.elim inner.regex fun n => .capture n inner.regex
       depth := inner.depth + 1}
    .ok {s with
      flags := level.flags, parts := part :: level.parts
      alternatives := level.alternatives, levels}

def popRepeatable (s : State) : Except SyntaxError (Part × State) :=
  match s.parts with
  | p :: parts =>
    if p.repeatable then .ok (p, {s with parts}) else .error .nothingToRepeat
  | [] => .error .nothingToRepeat

end State

def isLookAround (cs : List Char) : Bool :=
  ["?=", "?!", "?<=", "?<!"].any fun mark => mark.toList.isPrefixOf cs

def isNameStart (c : Char) : Bool := c == '_' || Unicode.letters.contains c

def isNameRest (c : Char) : Bool :=
  c == '_' || c == '.' || c == '[' || c == ']' || Unicode.alphanumerics.contains c

def readGroupName (names : List String) (cs : List Char) :
    Except SyntaxError (String × List Char) :=
  let name := cs.takeWhile (· != '>')
  match cs.dropWhile (· != '>') with
  | [] => .error .badGroupName
  | _ :: after =>
    match name with
    | [] => .error .badGroupName
    | c :: rest =>
      if !(isNameStart c && rest.all isNameRest) then .error .badGroupName
      else if names.contains (String.ofList name) then .error .repeatedGroupName
      else .ok (String.ofList name, after)

def readOpening (s : State) (cs : List Char) : Except SyntaxError (State × List Char) :=
  let cs := skip s.flags.verbose cs
  if isLookAround cs then .error .lookAround
  else
    let named (rest : List Char) : Except SyntaxError (State × List Char) := do
      let (name, after) ← readGroupName s.names rest
      return ({s with names := name :: s.names}.openCapture, after)
    match cs with
    | '?' :: 'P' :: '<' :: rest => named rest
    | '?' :: '<' :: rest => named rest
    | '?' :: rest => do
      let (flags, after) ← s.flags.read true [] rest
      match after with
      | ':' :: after => return (s.openGroup flags none, after)
      | _ :: after =>
        if rest.head? == some ')' then .error .nothingToRepeat
        else return ({s with flags}.push .nothing, after)
      | [] => .error .unclosedGroup
    | _ => .ok (s.openCapture, cs)

def State.pushRepeated (s : State) (p : Part) (low : Nat) (high : Option Nat) (cs : List Char) :
    State × List Char :=
  match cs with
  | '?' :: rest => (s.push (p.repeated low high s.flags.swapGreed), rest)
  | cs => (s.push (p.repeated low high !s.flags.swapGreed), cs)

def readCount (verbose : Bool) (cs : List Char) : Option Nat × List Char :=
  let (digits, after) := takeSpaced verbose Char.isDigit false (cs.dropWhile Unicode.isBlank)
  let after := skip verbose (after.dropWhile Unicode.isBlank)
  let n := digits.foldl (fun n c => 10 * n + (c.toNat - '0'.toNat)) 0
  (if digits.isEmpty || UInt32.size ≤ n then none else some n, after)

def readCounts (verbose : Bool) (cs : List Char) :
    Except SyntaxError (Nat × Option Nat × List Char) :=
  match readCount verbose (skip verbose cs) with
  | (some low, '\x7d' :: after) => .ok (low, some low, after)
  | (some low, ',' :: after) =>
    match skip verbose after with
    | '\x7d' :: after => .ok (low, none, after)
    | after =>
      match readCount verbose after with
      | (some high, '\x7d' :: after) =>
        if low ≤ high then .ok (low, some high, after) else .error .badCount
      | _ => .error .badCount
  | _ => .error .badCount

def literalPart (f : Flags) (c : Char) (asByte : Bool) : Except SyntaxError Part :=
  if !f.unicode && asByte && 128 ≤ c.toNat then .error .notUnicode
  else .ok {regex := .ofSet (foldIn f (.ofChar c))}

def dotPart (f : Flags) : Except SyntaxError Part :=
  if !f.unicode then .error .notUnicode
  else
    let excluded := if f.dotAll then CharSet.empty
      else if f.crlf then .ofPoints [10, 13] else .ofPoints [10]
    .ok {regex := .ofSet excluded.complement}

def escapePart (f : Flags) : Escape → Except SyntaxError Part
  | .literal c asByte => literalPart f c asByte
  | .shorthand kind negated => return {regex := .ofSet (← shorthandSet f kind negated)}
  | .property members negated => return {regex := .ofSet (← propertyMembers f members negated)}
  | .look l => .ok {regex := .look l}

def readPiece (s : State) (c : Char) (rest : List Char) :
    Except SyntaxError (State × List Char) :=
  let f := s.flags
  let repetition (low : Nat) (high : Option Nat) : Except SyntaxError (State × List Char) := do
    let (p, s) ← s.popRepeatable
    return s.pushRepeated p low high rest
  match c with
  | '(' => readOpening s rest
  | ')' => do return (← s.closeGroup, rest)
  | '|' =>
    .ok ({s with parts := [], alternatives := .ofConcat s.parts :: s.alternatives}, rest)
  | '[' => do
    let ((members, depth), after) ← readClass f rest
    return (s.push {regex := .ofSet members, depth}, after)
  | '?' => repetition 0 (some 1)
  | '*' => repetition 0 none
  | '+' => repetition 1 none
  | '\x7b' => do
    let (p, s) ← s.popRepeatable
    let (low, high, after) ← readCounts f.verbose rest
    return s.pushRepeated p low high (skip f.verbose after)
  | '\\' => do
    let (e, after) ← readEscape f rest
    return (s.push (← escapePart f e), after)
  | '.' => do return (s.push (← dotPart f), rest)
  | '^' =>
    .ok (s.push {regex := .look (if f.multiLine then .lineStart f.crlf else .textStart)}, rest)
  | '$' => .ok (s.push {regex := .look (if f.multiLine then .lineEnd f.crlf else .textEnd)}, rest)
  | c => do return (s.push (← literalPart f c false), rest)

def readPieces : (rounds : Nat) → State → List Char → Except SyntaxError State
  | 0, s, _ => .ok s
  | rounds + 1, s, cs =>
    match skip s.flags.verbose cs with
    | [] => .ok s
    | c :: rest => do
      let (s, after) ← readPiece s c rest
      readPieces rounds s after

def parse (pattern : List Char) : Except SyntaxError Regex := do
  let s ← readPieces (pattern.length + 1) {} pattern
  if !s.levels.isEmpty then .error .unclosedGroup
  else
    let whole := s.group
    if maxDepth < whole.depth then .error .tooDeep
    else if !whole.regex.fits then .error .tooLarge
    else return whole.regex

end LocatorPath.Regex
