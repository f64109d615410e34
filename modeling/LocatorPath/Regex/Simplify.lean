import LocatorPath.Regex.Extent

/-! Regular expressions in a simple form. Parts of parts are parts of the whole, characters that
stand side by side are one literal, and branches share what all of them start with. -/
namespace LocatorPath.Regex
open Unicode (CharSet)

def ofSet (s : CharSet) : Regex :=
  let s := s.scalars
  match s.ranges with
  | [(low, high)] => if low = high then literal [Char.ofNat low] else set s
  | _ => set s

def ofRepetition (r : Regex) (low : Nat) (high : Option Nat) (greedy : Bool) : Regex :=
  let zero := r.extent.isZero
  let low := if zero then min low 1 else low
  let high := if zero then some (min (high.getD 1) 1) else high
  if low = 0 && high == some 0 then empty
  else if low = 1 && high == some 1 then r
  else repetition r low high greedy

def parts : Regex → List Regex
  | empty => []
  | concat rs => rs
  | r => [r]

def joinLiterals : List Regex → List Regex
  | [] => []
  | r :: rest =>
    match r, joinLiterals rest with
    | literal cs, literal ds :: more => literal (cs ++ ds) :: more
    | r, more => r :: more

def ofParts : List Regex → Regex
  | [] => empty
  | [r] => r
  | rs => concat rs

def ofConcat (rs : List Regex) : Regex := ofParts (joinLiterals (rs.flatMap parts))

def branches : Regex → List Regex
  | alternation rs => rs
  | r => [r]

def single? : Regex → Option Char
  | literal [c] => some c
  | _ => none

def members? : Regex → Option CharSet
  | set s => some s
  | _ => none

def ofBranches (rs : List Regex) : Regex :=
  match rs.flatMap branches with
  | [r] => r
  | rs =>
    match rs.mapM single?, rs.mapM members? with
    | some cs, _ => ofSet (.ofPoints (cs.map Char.toNat))
    | none, some sets => ofSet (sets.foldl CharSet.union .empty)
    | none, none => alternation rs

def sharedParts : List Regex → List Regex → List Regex
  | r :: rs, s :: ss => if r == s then r :: sharedParts rs ss else []
  | _, _ => []

def sharedStart : List Regex → List Regex
  | [] => []
  | [concat rs] => rs
  | concat rs :: rest => sharedParts rs (sharedStart rest)
  | _ => []

def withoutParts (count : Nat) : Regex → Regex
  | concat rs => ofParts (rs.drop count)
  | r => r

def ofAlternatives (rs : List Regex) : Regex :=
  match ofBranches rs with
  | alternation rs =>
    match sharedStart rs with
    | [] => alternation rs
    | shared => ofConcat (shared ++ [ofBranches (rs.map (withoutParts shared.length))])
  | r => r

end LocatorPath.Regex
