import LocatorPath.Unicode.Lookup

/-! Regular expressions over characters, and the search for a match somewhere in a text. Only
whether there is a match is asked, so which of several matches is preferred plays no part. -/
namespace LocatorPath
open Unicode (CharSet)

inductive Look where
  | textStart
  | textEnd
  | lineStart (crlf : Bool)
  | lineEnd (crlf : Bool)
  | boundary (ascii : Bool)
  | notBoundary (ascii : Bool)
  | wordStart (ascii : Bool)
  | wordEnd (ascii : Bool)
  | halfStart (ascii : Bool)
  | halfEnd (ascii : Bool)
  deriving DecidableEq, Repr

namespace Look

def asciiWord (c : Char) : Bool := c.isAlphanum || c == '_'

def inWord (ascii : Bool) : Option Char → Bool
  | none => false
  | some c => if ascii then asciiWord c else Unicode.wordCharacters.contains c

def holds (before after : Option Char) : Look → Bool
  | textStart => before.isNone
  | textEnd => after.isNone
  | lineStart false => before.isNone || before == some '\n'
  | lineStart true =>
    before.isNone || before == some '\n' || before == some '\r' && after != some '\n'
  | lineEnd false => after.isNone || after == some '\n'
  | lineEnd true =>
    after.isNone || after == some '\r' || after == some '\n' && before != some '\r'
  | boundary a => inWord a before != inWord a after
  | notBoundary a => inWord a before == inWord a after
  | wordStart a => !inWord a before && inWord a after
  | wordEnd a => inWord a before && !inWord a after
  | halfStart a => !inWord a before
  | halfEnd a => !inWord a after

end Look

inductive Regex where
  | empty
  | literal (text : List Char)
  | set (members : CharSet)
  | look (condition : Look)
  | repetition (body : Regex) (low : Nat) (high : Option Nat) (greedy : Bool)
  | capture (number : Nat) (body : Regex)
  | concat (parts : List Regex)
  | alternation (branches : List Regex)
  deriving Repr, BEq

namespace Regex

abbrev Places := Nat

def placesWhere (holds : Option Char → Option Char → Bool) :
    Option Char → List Char → Places
  | before, [] => (holds before none).toNat
  | before, c :: rest =>
    2 * placesWhere holds (some c) rest + (holds before (some c)).toNat

def placesOf (s : CharSet) (text : List Char) : Places :=
  placesWhere (fun _ after => after.any s.contains) none text

/-- The places of `found` and all those that a step leads to from them, where each round looks
only at places that are new. A text with `rounds` places needs no more rounds than that. -/
def closure (step : Places → Places) : (rounds : Nat) → (found new : Places) → Places
  | 0, found, _ => found
  | rounds + 1, found, new =>
    if new == 0 then found
    else
      let next := step new
      let fresh := next ^^^ (next &&& found)
      closure step rounds (found ||| fresh) fresh

def repeatStep (step : Places → Places) : Nat → Places → Places
  | 0, found => found
  | count + 1, found =>
    let next := step found
    if next == found then found else repeatStep step count next

def advanceOver (text : List Char) (s : CharSet) (ps : Places) : Places :=
  (ps &&& placesOf s text) <<< 1

mutual

/-- Where matches can end that start at one of the given places. More repetitions than the text
has places lead nowhere new, so a count above that is cut down to it. -/
def advance (text : List Char) : Regex → Places → Places
  | empty, ps => ps
  | literal cs, ps => cs.foldl (fun ps c => advanceOver text (.ofChar c) ps) ps
  | set s, ps => advanceOver text s ps
  | look l, ps => ps &&& placesWhere (fun b a => l.holds b a) none text
  | repetition r low high _, ps =>
    let ps := repeatStep (advance text r) (min low (text.length + 1)) ps
    match high with
    | none => closure (advance text r) (text.length + 2) ps ps
    | some high =>
      repeatStep (fun qs => qs ||| advance text r qs) (min (high - low) (text.length + 1)) ps
  | capture _ r, ps => advance text r ps
  | concat rs, ps => advanceAll text rs ps
  | alternation rs, ps => advanceAny text rs ps

def advanceAll (text : List Char) : List Regex → Places → Places
  | [], ps => ps
  | r :: rest, ps => advanceAll text rest (advance text r ps)

def advanceAny (text : List Char) : List Regex → Places → Places
  | [], _ => 0
  | r :: rest, ps => advance text r ps ||| advanceAny text rest ps

end

def isMatch (r : Regex) (text : String) : Bool :=
  let cs := text.toList
  advance cs r (Nat.pow 2 (cs.length + 1) - 1) != 0

end Regex

end LocatorPath
