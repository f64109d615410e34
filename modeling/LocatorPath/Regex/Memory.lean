import LocatorPath.Octets
import LocatorPath.Regex.Extent
import Std.Data.TreeMap

/-! How much memory the automata of a regular expression take. One of them reads the octets of a
text from the left and the other one from the right, and each has to fit by itself. A state takes
32 octets, and where there are several ways on, a list of them. -/
namespace LocatorPath.Regex
open Unicode (CharSet OctetRange)

structure Memory where
  states : Nat := 0
  lists : Nat := 0
  deriving DecidableEq, Repr

def Memory.octets (m : Memory) : Nat := 32 * m.states + m.lists

def memoryLimit : Nat := 10 * 1024 * 1024

abbrev Build := StateT Memory Option

namespace Build

def charge (states lists : Nat) : Build Unit := fun m =>
  let m : Memory := ⟨m.states + states, m.lists + lists⟩
  if m.octets ≤ memoryLimit then some ((), m) else none

def newState (lists : Nat) : Build Nat := do
  let m ← get
  charge 1 lists
  return m.states

def link (choice : Bool) : Build Unit := if choice then charge 0 4 else pure ()

def more (part : Build Bool) : (count : Nat) → (choice : Bool) → Build Bool
  | 0, choice => return choice
  | count + 1, choice => do
    let next ← part
    link choice
    more part count next

def optional (part : Build Bool) : (count : Nat) → (choice : Bool) → Build Bool
  | 0, choice => return choice
  | count + 1, choice => do
    charge 1 8
    let next ← part
    link choice
    optional part count next

/-! States that were built for a set can serve again in the same set. Such states are kept in a
number of places by a hash of what they are, and a newer one drives an older one out of its
place. -/

abbrev Kept (α : Type) := Std.TreeMap UInt64 (α × Nat)

def hash (words : List UInt64) : UInt64 :=
  words.foldl (fun h w => (h ^^^ w) * 1099511628211) 14695981039346656037

def share {α : Type} [BEq α] (places : UInt64) (words : α → List UInt64) (lists : α → Nat)
    (a : α) : StateT (Kept α) Build Nat := do
  let place := hash (words a) % places
  match (← get)[place]? with
  | some (b, state) => if a == b then return state else build place
  | none => build place
where
  build (place : UInt64) : StateT (Kept α) Build Nat := do
    let state ← newState (lists a)
    modify (·.insert place (a, state))
    return state

structure Way where
  range : OctetRange
  next : Nat
  deriving DecidableEq, Repr

def Way.words (w : Way) : List UInt64 :=
  [w.range.low.toUInt64, w.range.high.toUInt64, .ofNat w.next]

def grouped : List (List OctetRange) → List (OctetRange × List (List OctetRange))
  | [] => []
  | [] :: rest => grouped rest
  | (r :: tail) :: rest =>
    match grouped rest with
    | (s, tails) :: more =>
      if r = s then (r, tail :: tails) :: more else (r, [tail]) :: (s, tails) :: more
    | [] => [(r, [tail])]

def tree (target : Nat) : (depth : Nat) → List (List OctetRange) →
    StateT (Kept (List Way)) Build Nat
  | 0, _ => return target
  | depth + 1, forms => do
    if forms.all List.isEmpty then return target
    else
      let ways ← (grouped forms).mapM fun (range, tails) => do
        return Way.mk range (← tree target depth tails)
      share 10000 (·.flatMap Way.words) (8 * ·.length) ways

def chain : (target : Nat) → List OctetRange → StateT (Kept Way) Build Nat
  | target, [] => return target
  | target, range :: rest => do
    let way : Way := ⟨range, target⟩
    let state ← share 1000
      (fun w => [.ofNat w.next, w.range.low.toUInt64, w.range.high.toUInt64]) (fun _ => 0) way
    chain state rest

def ofSet (back : Bool) (s : CharSet) : Build Unit :=
  if s.isAscii then charge 2 (8 * s.ranges.length)
  else if back then do
    charge 1 0
    let target ← newState 0
    StateT.run' (s.octetRanges.forM fun form => do
      let _ ← chain target form
      charge 0 4) {}
  else do
    let target ← newState 0
    discard ((tree target 4 s.octetRanges).run' {})

/-! Alternatives that are all literals are built as a tree of words. -/

def runs : List Octets → List (List (UInt8 × Octets))
  | [] => [[]]
  | [] :: rest => [] :: runs rest
  | (o :: tail) :: rest =>
    match runs rest with
    | run :: more => ((o, tail) :: run) :: more
    | [] => [[(o, tail)]]

def dropRepeatedEnds : List Octets → List Octets
  | [] :: rest => [] :: rest.dropWhile List.isEmpty
  | words => words

/-- Builds the tree below one state. Each run that is not empty is a state with a way for each
octet, and the runs and the ends between them are a choice. Where nothing follows, the common end
stands instead of a tree. -/
def wordTree : (depth : Nat) → List Octets → Build Unit
  | 0, _ => pure ()
  | depth + 1, words => do
    if !words.all List.isEmpty then
      let all := runs (dropRepeatedEnds words)
      let full := all.filter (!·.isEmpty)
      full.forM fun run => do
        let octets := (run.map Prod.fst).eraseDups
        charge 1 (if octets.length = 1 then 0 else 8 * octets.length)
        octets.forM fun o =>
          wordTree depth (run.filterMap fun p => if p.1 == o then some p.2 else none)
      charge 1 (4 * (full.length + (all.length - 1)))

def ofWords (words : List Octets) : Build Unit := do
  charge 1 0
  wordTree (words.foldl (fun n w => max n w.length) 0) words

end Build

open Build (charge link more optional)

def literals? : List Regex → Option (List (List Char))
  | [] => some []
  | literal cs :: rest => (literals? rest).map (cs :: ·)
  | _ => none

mutual

def build (back : Bool) : Regex → Build Bool
  | empty | look _ => do
    charge 1 0
    return false
  | literal cs => do
    charge (Octets.textSize cs) 0
    return false
  | set s => do
    Build.ofSet back s
    return false
  | repetition r low high _ =>
    match low, high with
    | 0, some 1 => do
      charge 1 8
      let choice ← build back r
      charge 1 0
      link choice
      return false
    | 0, none =>
      if r.extent.least.any (0 < ·) then do
        charge 1 4
        link (← build back r)
        return true
      else do
        link (← build back r)
        charge 3 16
        return false
    | low + 1, none => do
      link (← more (build back r) low (← build back r))
      charge 1 4
      return true
    | 0, some high => do
      charge 2 0
      link (← optional (build back r) high false)
      return false
    | low + 1, some high => do
      let choice ← more (build back r) low (← build back r)
      if high = low + 1 then return choice
      else do
        charge 1 0
        link (← optional (build back r) (high - (low + 1)) choice)
        return false
  | capture _ r =>
    if back then build back r
    else do
      charge 1 0
      let choice ← build back r
      charge 1 0
      link choice
      return false
  | concat rs => buildAll back rs
  | alternation rs => do
    match literals? rs with
    | some texts =>
      Build.ofWords (texts.map fun cs =>
        let octets := Octets.ofText (String.ofList cs)
        if back then octets.reverse else octets)
    | none => buildAny back 0 rs
    return false

def buildAll (back : Bool) : List Regex → Build Bool
  | [] => do
    charge 1 0
    return false
  | [r] => build back r
  | r :: s :: rest =>
    if back then do
      let later ← buildAll back (s :: rest)
      let choice ← build back r
      link later
      return choice
    else do
      let choice ← build back r
      let later ← buildAll back (s :: rest)
      link choice
      return later

def buildAny (back : Bool) : (before : Nat) → List Regex → Build Unit
  | _, [] => pure ()
  | before, r :: rest => do
    let choice ← build back r
    if before = 1 then charge 2 0
    charge 0 4
    link choice
    buildAny back (before + 1) rest

end

/-- Builds a whole automaton: a loop over the characters in front unless matches are bound to where
reading starts, the expression, as a group of its own when it is read from the left, and the state
of a match. -/
def buildWhole (back : Bool) (r : Regex) : Build Unit := do
  if (if back then r.isEndBound else r.isStartBound) then charge 1 0 else charge 3 16
  link (← build back (.capture 0 r))
  charge 1 0

def fits (r : Regex) : Bool :=
  [false, true].all fun back => ((buildWhole back r).run {}).isSome

end LocatorPath.Regex
