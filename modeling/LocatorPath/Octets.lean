import LocatorPath.Unicode.CharSet

/-! Sequences of octets, some of which are the UTF-8 form of a text, and the UTF-8 forms of a range
of characters. Such a range falls into pieces in which every octet of the form runs through a range
of its own. -/
namespace LocatorPath

abbrev Octets := List UInt8

namespace Octets

def ofText (s : String) : Octets := s.toList.flatMap String.utf8EncodeChar

def textSize (cs : List Char) : Nat := cs.foldr (fun c n => c.utf8Size + n) 0

def text? (octets : Octets) : Option String := String.fromUTF8? ⟨octets.toArray⟩

end Octets

end LocatorPath

namespace LocatorPath.Unicode

structure OctetRange where
  low : UInt8
  high : UInt8
  deriving DecidableEq, Repr

namespace OctetRange

/-- Cuts a range so that each piece lies in one block, or has full blocks of the size below. A
block at one level is 64 blocks of the level below. -/
def cut : (levels block low high : Nat) → List (Nat × Nat)
  | 0, _, low, high => if low ≤ high then [(low, high)] else []
  | levels + 1, block, low, high =>
    if low / block = high / block then cut 0 block low high
    else
      let first := (low + block - 1) / block * block
      let stop := (high + 1) / block * block
      cut 0 block low (first - 1) ++ cut levels (64 * block) first (stop - 1) ++
        cut 0 block stop high

/-- The code points whose forms have one, two, three and four octets, with the surrogates left out,
and at how many levels each has to be cut. -/
def spans : List (Nat × Nat × Nat) :=
  [(0, 0, 0x7F), (1, 0x80, 0x7FF), (2, 0x800, 0xD7FF), (2, 0xE000, 0xFFFF), (3, 0x10000, 0x10FFFF)]

def form (n : Nat) : List UInt8 := String.utf8EncodeChar (Char.ofNat n)

def ofPoints (r : Nat × Nat) : List (List OctetRange) :=
  spans.flatMap fun (levels, low, high) =>
    (if max low r.1 ≤ min high r.2 then cut levels 64 (max low r.1) (min high r.2) else []).map
      fun p => List.zipWith OctetRange.mk (form p.1) (form p.2)

end OctetRange

def CharSet.octetRanges (s : CharSet) : List (List OctetRange) :=
  s.ranges.flatMap OctetRange.ofPoints

end LocatorPath.Unicode
