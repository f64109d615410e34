/-! What a resolution holds between two steps: one element, or a list of them. -/
namespace LocatorPath

inductive Scope (α : Type) where
  | one (element : α)
  | many (elements : List α)
  deriving DecidableEq, Repr

namespace Scope

variable {α : Type}

def isMany : Scope α → Bool
  | one _ => false
  | many _ => true

@[simp] theorem oneNotMany (a : α) : (one a).isMany = false := rfl

@[simp] theorem manyIsMany (as : List α) : (many as).isMany = true := rfl

def toList : Scope α → List α
  | one a => [a]
  | many as => as

@[simp] theorem oneListed (a : α) : (one a).toList = [a] := rfl

@[simp] theorem manyListed (as : List α) : (many as).toList = as := rfl

def size (s : Scope α) : Nat := s.toList.length

def isEmpty (s : Scope α) : Bool := s.toList.isEmpty

def one? : Scope α → Option α
  | one a => some a
  | many _ => none

def many? : Scope α → Option (List α)
  | one _ => none
  | many as => some as

end Scope

end LocatorPath
