import LocatorPath.Selector

/-! Definitions: what an alias stands for on a page. -/
namespace LocatorPath

/-- A definition yields one element, all elements that its selector finds, or a component, which
has definitions of its own below it. A component that is a collection stands for every place that
its selector finds. -/
inductive Definition where
  | element (name : String) (selector : Selector)
  | collection (name : String) (selector : Selector)
  | component (name : String) (selector : Selector) (collection : Bool)
      (children : List Definition)
  deriving Repr

namespace Definition

def name : Definition → String
  | element a _ | collection a _ | component a _ _ _ => a

def selector : Definition → Selector
  | element _ s | collection _ s | component _ s _ _ => s

def isCollection : Definition → Bool
  | element _ _ => false
  | collection _ _ => true
  | component _ _ c _ => c

mutual

def decEq : (a b : Definition) → Decidable (a = b)
  | element a s, element b t =>
    decidable_of_iff (a = b ∧ s = t) (by simp)
  | collection a s, collection b t =>
    decidable_of_iff (a = b ∧ s = t) (by simp)
  | component a s c xs, component b t d ys =>
    have := decEqList xs ys
    decidable_of_iff (a = b ∧ s = t ∧ c = d ∧ xs = ys) (by simp)
  | element _ _, collection _ _ | element _ _, component _ _ _ _
  | collection _ _, element _ _ | collection _ _, component _ _ _ _
  | component _ _ _ _, element _ _ | component _ _ _ _, collection _ _ => isFalse nofun

def decEqList : (xs ys : List Definition) → Decidable (xs = ys)
  | [], [] => isTrue rfl
  | [], _ :: _ | _ :: _, [] => isFalse nofun
  | x :: xs, y :: ys =>
    have := decEq x y
    have := decEqList xs ys
    decidable_of_iff (x = y ∧ xs = ys) (by simp)

end

instance : DecidableEq Definition := decEq

end Definition

end LocatorPath
