import LocatorPath.Regex.Parse

/-! Regular expressions together with the text they were read from. -/
namespace LocatorPath

structure Pattern where
  source : String
  regex : Regex
  parsed : Regex.parse source.toList = .ok regex

namespace Pattern

def read (source : String) : Except Regex.SyntaxError Pattern :=
  match h : Regex.parse source.toList with
  | .ok regex => .ok ⟨source, regex, h⟩
  | .error e => .error e

theorem sameSource {p q : Pattern} (h : p.source = q.source) : p = q := by
  obtain ⟨s, r, hr⟩ := p
  obtain ⟨t, u, hu⟩ := q
  cases h
  cases hr.symm.trans hu
  rfl

theorem readSource (p : Pattern) : read p.source = .ok p := by
  unfold read
  split
  · exact congrArg _ (sameSource rfl)
  · next h => rw [p.parsed] at h; cases h

instance : DecidableEq Pattern := fun p q =>
  if h : p.source = q.source then isTrue (sameSource h)
  else isFalse fun e => h (congrArg source e)

instance : Repr Pattern := ⟨fun p n => reprPrec p.source n⟩

def isMatch (p : Pattern) (text : String) : Bool := p.regex.isMatch text

end Pattern

end LocatorPath
