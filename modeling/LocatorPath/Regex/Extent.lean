import LocatorPath.Octets
import LocatorPath.Regex.Basic

/-! How long matches of a regular expression are, and whether all of them start at the start of the
text or end at its end. -/
namespace LocatorPath.Regex
open Unicode (CharSet)

/-- The fewest and the most octets that a match can have. What cannot match has neither, and without
an upper bound there is no greatest length. -/
structure Extent where
  least : Option Nat
  most : Option Nat
  deriving DecidableEq, Repr

namespace Extent

def exactly (n : Nat) : Extent := ⟨some n, some n⟩

def andThen (d e : Extent) : Extent :=
  ⟨d.least.bind fun a => e.least.map (a + ·), d.most.bind fun a => e.most.map (a + ·)⟩

def either (d e : Extent) : Extent :=
  ⟨d.least.bind fun a => e.least.map (min a ·), d.most.bind fun a => e.most.map (max a ·)⟩

def repeated (e : Extent) (low : Nat) (high : Option Nat) : Extent :=
  ⟨e.least.map (low * ·), high.bind fun n => e.most.map (n * ·)⟩

def ofSet (s : CharSet) : Extent :=
  let size (n : Nat) := (Char.ofNat n).utf8Size
  ⟨s.ranges.head?.map fun r => size r.1, s.ranges.getLast?.map fun r => size r.2⟩

def isZero (e : Extent) : Bool := e.most == some 0

end Extent

mutual

def extent : Regex → Extent
  | empty | look _ => .exactly 0
  | literal cs => .exactly (Octets.textSize cs)
  | set s => .ofSet s
  | repetition r low high _ => r.extent.repeated low high
  | capture _ r => r.extent
  | concat rs => extentAll rs
  | alternation rs => extentAny rs

def extentAll : List Regex → Extent
  | [] => .exactly 0
  | r :: rest => r.extent.andThen (extentAll rest)

def extentAny : List Regex → Extent
  | [] => ⟨none, none⟩
  | [r] => r.extent
  | r :: s :: rest => r.extent.either (extentAny (s :: rest))

end

mutual

def isStartBound : Regex → Bool
  | look .textStart => true
  | empty | literal _ | set _ | look _ => false
  | repetition r low _ _ => low != 0 && r.isStartBound
  | capture _ r => r.isStartBound
  | concat rs => isStartBoundAll rs
  | alternation rs => isStartBoundAny rs

def isStartBoundAll : List Regex → Bool
  | [] => false
  | r :: rest => r.isStartBound || (r.extent.isZero && isStartBoundAll rest)

def isStartBoundAny : List Regex → Bool
  | [] => true
  | r :: rest => r.isStartBound && isStartBoundAny rest

end

mutual

def isEndBound : Regex → Bool
  | look .textEnd => true
  | empty | literal _ | set _ | look _ => false
  | repetition r low _ _ => low != 0 && r.isEndBound
  | capture _ r => r.isEndBound
  | concat rs => isEndBoundAll rs
  | alternation rs => isEndBoundAny rs

def isEndBoundAll : List Regex → Bool
  | [] => false
  | r :: rest => isEndBoundAll rest || ((extentAll rest).isZero && r.isEndBound)

def isEndBoundAny : List Regex → Bool
  | [] => true
  | r :: rest => r.isEndBound && isEndBoundAny rest

end

end LocatorPath.Regex
