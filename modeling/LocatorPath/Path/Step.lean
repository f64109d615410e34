import LocatorPath.Pattern

/-! The steps of a path, and the text filters that they can carry. -/
namespace LocatorPath

inductive Position where
  | first
  | last
  | nth (n : UInt64)
  deriving DecidableEq, Repr

/-- Which members of a list a step keeps, by their places counted from one. The bounds of
`between` belong to it, those of the other two ranges do not. -/
inductive IndexSpec where
  | exact (position : Position)
  | between (low high : UInt64)
  | above (n : UInt64)
  | below (n : UInt64)
  deriving DecidableEq, Repr

inductive TextFilter where
  | contains (text : String)
  | equals (text : String)
  | pattern (p : Pattern)
  deriving DecidableEq, Repr

inductive Cardinality where
  | first
  | all
  deriving DecidableEq, Repr

inductive Modifier where
  | index (spec : IndexSpec)
  | text (filter : TextFilter) (cardinality : Cardinality)
  deriving DecidableEq, Repr

inductive Target where
  | this
  | named (name : String)
  deriving DecidableEq, Repr

structure Step where
  target : Target
  modifier : Option Modifier
  deriving DecidableEq, Repr

def isPartOf (part : List Char) : List Char → Bool
  | [] => part.isEmpty
  | c :: rest => part.isPrefixOf (c :: rest) || isPartOf part rest

def TextFilter.accepts : TextFilter → String → Bool
  | contains part, text => isPartOf part.toList text.toList
  | equals whole, text => text == whole
  | pattern p, text => p.isMatch text

namespace Step

def this : Step := ⟨.this, none⟩

def named (name : String) : Step := ⟨.named name, none⟩

def isThis (s : Step) : Bool := s.target == .this

end Step

end LocatorPath
