import LocatorPath.Path.Step

/-! The written form of steps and paths. -/
namespace LocatorPath

abbrev chars (s : String) : List Char := s.toList

def decimal (n : Nat) : List Char := Nat.toDigits 10 n

namespace IndexSpec

def written : IndexSpec → List Char
  | exact .first => chars "#FIRST"
  | exact .last => chars "#LAST"
  | exact (.nth n) => '#' :: decimal n.toNat
  | between low high => '#' :: (decimal low.toNat ++ '-' :: decimal high.toNat)
  | above n => '#' :: '>' :: decimal n.toNat
  | below n => '#' :: '<' :: decimal n.toNat

def render (i : IndexSpec) : String := String.ofList i.written

end IndexSpec

namespace TextFilter

def written : TextFilter → List Char
  | contains text => '#' :: text.toList
  | equals text => '@' :: text.toList
  | pattern p => '/' :: (p.source.toList ++ ['/'])

def render (f : TextFilter) : String := String.ofList f.written

end TextFilter

def Target.written : Target → List Char
  | this => chars "this"
  | named name => name.toList

def Target.render (t : Target) : String := String.ofList t.written

def Cardinality.written : Cardinality → List Char
  | first => []
  | all => chars "all "

namespace Step

def written (s : Step) : List Char :=
  match s.modifier with
  | none => s.target.written
  | some (.index i) => i.written ++ chars " of " ++ s.target.written
  | some (.text f c) => c.written ++ f.written ++ chars " in " ++ s.target.written

def render (s : Step) : String := String.ofList s.written

end Step

def writtenPath : List Step → List Char
  | [] => []
  | [s] => s.written
  | s :: rest => s.written ++ chars " > " ++ writtenPath rest

def renderPath (steps : List Step) : String := String.ofList (writtenPath steps)

end LocatorPath
