/-! Sets of characters as ascending lists of ranges, and the compact spelling in which the tables
of the Unicode character database are written. -/
namespace LocatorPath.Unicode

structure CharSet where
  ranges : List (Nat × Nat)
  deriving DecidableEq, Repr

namespace CharSet

def last : Nat := 0x10FFFF

def empty : CharSet := ⟨[]⟩

def all : CharSet := ⟨[(0, last)]⟩

def ofRange (low high : Nat) : CharSet := ⟨[(low, high)]⟩

def ofChar (c : Char) : CharSet := .ofRange c.toNat c.toNat

def covers (n : Nat) (r : Nat × Nat) : Bool := r.1 ≤ n && n ≤ r.2

def containsPoint (s : CharSet) (n : Nat) : Bool := s.ranges.any (covers n)

def contains (s : CharSet) (c : Char) : Bool := s.containsPoint c.toNat

def joinFrom (r : Nat × Nat) : List (Nat × Nat) → List (Nat × Nat)
  | [] => [r]
  | s :: rest => if s.1 ≤ r.2 + 1 then joinFrom (r.1, max r.2 s.2) rest else r :: joinFrom s rest

def join : List (Nat × Nat) → List (Nat × Nat)
  | [] => []
  | r :: rest => joinFrom r rest

def mergeStarts : List (Nat × Nat) → List (Nat × Nat) → List (Nat × Nat)
  | xs, ys => List.merge xs ys fun a b => a.1 ≤ b.1

def union (s t : CharSet) : CharSet := ⟨join (mergeStarts s.ranges t.ranges)⟩

def ofRanges (rs : List (Nat × Nat)) : CharSet :=
  ⟨join (rs.mergeSort fun a b => a.1 ≤ b.1)⟩

def ofPoints (ns : List Nat) : CharSet := ofRanges (ns.map fun n => (n, n))

def gaps : Nat → List (Nat × Nat) → List (Nat × Nat)
  | start, [] => if start ≤ last then [(start, last)] else []
  | start, r :: rest =>
    if start < r.1 then (start, r.1 - 1) :: gaps (r.2 + 1) rest else gaps (r.2 + 1) rest

def complement (s : CharSet) : CharSet := ⟨gaps 0 s.ranges⟩

def intersect (s t : CharSet) : CharSet := (s.complement.union t.complement).complement

def difference (s t : CharSet) : CharSet := s.intersect t.complement

def symmetricDifference (s t : CharSet) : CharSet := (s.difference t).union (t.difference s)

def scalars (s : CharSet) : CharSet :=
  ⟨s.ranges.flatMap fun r =>
    (if r.1 < 0xD800 then [(r.1, min r.2 0xD7FF)] else []) ++
      (if 0xDFFF < r.2 then [(max r.1 0xE000, r.2)] else [])⟩

def isAscii (s : CharSet) : Bool := s.ranges.all fun r => r.2 < 128

/-! Tables are written as numbers in base 31. A final digit is one of the first 31 of the signs
`0`–`9`, `A`–`Z`, `a`–`z`, and a digit that others follow is one of the last 31. -/

def sign (c : Char) : Nat :=
  if c ≤ '9' then c.toNat - '0'.toNat
  else if c ≤ 'Z' then c.toNat - 'A'.toNat + 10
  else c.toNat - 'a'.toNat + 36

def readNumbers : Nat → List Char → List Nat
  | _, [] => []
  | high, c :: rest =>
    let d := sign c
    if d < 31 then (high * 31 + d) :: readNumbers 0 rest else readNumbers (high * 31 + d - 31) rest

def numbers (code : List String) : List Nat := readNumbers 0 (code.flatMap String.toList)

/-- Reads the gap before each range and its length less one. -/
def readRanges : Nat → List Nat → List (Nat × Nat)
  | start, gap :: length :: rest =>
    (start + gap, start + gap + length) :: readRanges (start + gap + length + 1) rest
  | _, _ => []

def ofCode (code : List String) : CharSet := ⟨readRanges 0 (numbers code)⟩

end CharSet

structure Entry where
  names : List String
  code : List String
  deriving DecidableEq, Repr

def Entry.set (e : Entry) : CharSet := .ofCode e.code

def findSet? (table : List Entry) (name : String) : Option CharSet :=
  (table.find? fun e => e.names.contains name).map Entry.set

end LocatorPath.Unicode
