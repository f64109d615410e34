import LocatorPath.Regex.Escape

/-! Character classes in brackets: literals, ranges, named and nested classes, and set operations,
which all bind alike and to the left. -/
namespace LocatorPath.Regex
open Unicode (CharSet)

def foldAscii (s : CharSet) : CharSet :=
  let move (low high : Nat) (by_ : Int) : CharSet :=
    .ofRanges ((s.intersect (.ofRange low high)).ranges.map fun r =>
      (((r.1 : Int) + by_).toNat, ((r.2 : Int) + by_).toNat))
  s.union ((move 65 90 32).union (move 97 122 (-32)))

def foldIn (f : Flags) (s : CharSet) : CharSet :=
  if f.ignoreCase then (if f.unicode then s.foldCase else foldAscii s) else s

def foldAndNegate (f : Flags) (negated : Bool) (s : CharSet) : Except SyntaxError CharSet :=
  if !negated then .ok (foldIn f s)
  else if f.unicode then .ok (foldIn f s).complement
  else .error .notUnicode

structure Items where
  members : CharSet := .empty
  count : Nat := 0
  depth : Nat := 0
  deriving DecidableEq, Repr

def Items.add (items : Items) (s : CharSet) (depth : Nat) : Items :=
  ⟨items.members.union s, items.count + 1, max items.depth depth⟩

def Items.nesting (items : Items) : Nat :=
  if items.count ≤ 1 then items.depth else items.depth + 1

inductive SetOperation where
  | intersection
  | difference
  | symmetricDifference
  deriving DecidableEq, Repr

def SetOperation.apply : SetOperation → CharSet → CharSet → CharSet
  | intersection => CharSet.intersect
  | difference => CharSet.difference
  | symmetricDifference => CharSet.symmetricDifference

structure Bracket where
  negated : Bool
  items : Items
  pending : Option (SetOperation × CharSet × Nat) := none
  deriving DecidableEq, Repr

namespace Bracket

def add (b : Bracket) (s : CharSet) (depth : Nat) : Bracket :=
  {b with items := b.items.add s depth}

def value (f : Flags) (b : Bracket) : CharSet × Nat :=
  match b.pending with
  | none => (b.items.members, b.items.nesting)
  | some (op, left, depth) =>
    (op.apply (foldIn f left) (foldIn f b.items.members), max depth b.items.nesting + 1)

def operate (f : Flags) (op : SetOperation) (b : Bracket) : Bracket :=
  let (s, depth) := b.value f
  {b with items := {}, pending := some (op, s, depth)}

def close (f : Flags) (b : Bracket) : Except SyntaxError (CharSet × Nat) := do
  let (s, depth) := b.value f
  return (← foldAndNegate f b.negated s, depth + 1)

end Bracket

def asciiClass? (name : String) : Option CharSet :=
  let ranges : Option (List (Nat × Nat)) := match name with
    | "alnum" => some [(48, 57), (65, 90), (97, 122)]
    | "alpha" => some [(65, 90), (97, 122)]
    | "ascii" => some [(0, 127)]
    | "blank" => some [(9, 9), (32, 32)]
    | "cntrl" => some [(0, 31), (127, 127)]
    | "digit" => some [(48, 57)]
    | "graph" => some [(33, 126)]
    | "lower" => some [(97, 122)]
    | "print" => some [(32, 126)]
    | "punct" => some [(33, 47), (58, 64), (91, 96), (123, 126)]
    | "space" => some [(9, 13), (32, 32)]
    | "upper" => some [(65, 90)]
    | "word" => some [(48, 57), (65, 90), (95, 95), (97, 122)]
    | "xdigit" => some [(48, 57), (65, 70), (97, 102)]
    | _ => none
  ranges.map CharSet.mk

def readNamed? : List Char → Option (CharSet × Bool × List Char)
  | ':' :: rest => do
    let (negated, rest) := match rest with
      | '^' :: rest => (true, rest)
      | _ => (false, rest)
    let s ← asciiClass? (String.ofList (rest.takeWhile (· != ':')))
    match rest.dropWhile (· != ':') with
    | ':' :: ']' :: after => some (s, negated, after)
    | _ => none
  | _ => none

/-- A class after its opening bracket, up to its first ordinary item: a caret negates, hyphens are
literal here, and so is a closing bracket that comes first. -/
def openBracket (f : Flags) (cs : List Char) : Except SyntaxError (Bracket × List Char) :=
  let (negated, cs) := match skip f.verbose cs with
    | '^' :: rest => (true, skip f.verbose rest)
    | cs => (false, cs)
  let (hyphens, cs) := takeSpaced f.verbose (· == '-') false cs
  let items := hyphens.foldl (fun (items : Items) c => items.add (.ofChar c) 0) {}
  match cs with
  | [] => .error .unclosedClass
  | ']' :: rest =>
    if hyphens.isEmpty then .ok (⟨negated, items.add (.ofChar ']') 0, none⟩, rest)
    else .ok (⟨negated, items, none⟩, cs)
  | _ => .ok (⟨negated, items, none⟩, cs)

def readItem (f : Flags) : List Char → Except SyntaxError (Escape × List Char)
  | [] => .error .unclosedClass
  | '\\' :: rest => readEscape f rest
  | c :: rest => .ok (.literal c false, rest)

def literalItem (f : Flags) : Escape → Except SyntaxError Char
  | .literal c _ => if f.unicode || c.toNat < 128 then .ok c else .error .notUnicode
  | _ => .error .badClassRange

def itemSet (f : Flags) : Escape → Except SyntaxError CharSet
  | .shorthand kind negated => shorthandSet f kind negated
  | .property members negated => propertyMembers f members negated
  | .look _ => .error .badClassItem
  | e => CharSet.ofChar <$> literalItem f e

/-- The first character that counts in verbose mode, when comments are taken to reach up to the next
character that is not blank, even in a later line. -/
def firstSpaced? : (inComment : Bool) → List Char → Option Char
  | _, [] => none
  | inComment, c :: rest =>
    if Unicode.isBlank c then firstSpaced? inComment rest
    else if !inComment && c == '#' then firstSpaced? true rest
    else some c

def afterHyphen? (f : Flags) (cs : List Char) : Option Char :=
  if f.verbose then firstSpaced? false cs <|> cs.head? else cs.head?

def readRange (f : Flags) (cs : List Char) : Except SyntaxError (CharSet × List Char) := do
  let (first, after) ← readItem f cs
  match skip f.verbose after with
  | [] => .error .unclosedClass
  | '-' :: more =>
    if afterHyphen? f more == some ']' || afterHyphen? f more == some '-' then
      return (← itemSet f first, '-' :: more)
    else
      let (second, after) ← readItem f (skip f.verbose more)
      let low ← literalItem f first
      let high ← literalItem f second
      if low ≤ high then return (.ofRange low.toNat high.toNat, after) else .error .badClassRange
  | after => return (← itemSet f first, after)

def readBrackets (f : Flags) : (rounds : Nat) → (outer : List Bracket) → Bracket →
    List Char → Except SyntaxError ((CharSet × Nat) × List Char)
  | 0, _, _, _ => .error .unclosedClass
  | rounds + 1, outer, b, cs =>
    match skip f.verbose cs with
    | [] => .error .unclosedClass
    | '[' :: rest =>
      match readNamed? rest with
      | some (s, negated, after) => do
        readBrackets f rounds outer (b.add (← foldAndNegate f negated s) 0) after
      | none => do
        let (inner, after) ← openBracket f rest
        readBrackets f rounds (b :: outer) inner after
    | ']' :: rest => do
      let (s, depth) ← b.close f
      match outer with
      | [] => return ((s, depth), rest)
      | o :: outer => readBrackets f rounds outer (o.add s depth) rest
    | '&' :: '&' :: rest => readBrackets f rounds outer (b.operate f .intersection) rest
    | '-' :: '-' :: rest => readBrackets f rounds outer (b.operate f .difference) rest
    | '~' :: '~' :: rest => readBrackets f rounds outer (b.operate f .symmetricDifference) rest
    | cs => do
      let (s, after) ← readRange f cs
      readBrackets f rounds outer (b.add s 0) after

def readClass (f : Flags) (cs : List Char) :
    Except SyntaxError ((CharSet × Nat) × List Char) := do
  let (b, after) ← openBracket f cs
  readBrackets f (after.length + 1) [] b after

end LocatorPath.Regex
