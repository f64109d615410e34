import Mathlib.Logic.Relation
import LocatorPath.Page

/-! Pages whose nodes are listed in document order. There the nodes below a node follow it at once, so
nodes of which none lies below another come with everything below them one after the other. -/
namespace LocatorPath
open Relation (TransGen)

section Chains

variable {parent? : Nat → Option Nat} {a n : Nat} {k m : Nat}

def Chain (parent? : Nat → Option Nat) : Nat → Nat → Prop := TransGen fun n q => parent? n = some q

theorem leadsToChain (leads : leadsTo parent? a k n = true) : Chain parent? n a := by
  induction k generalizing n with
  | zero => contradiction
  | succ k ih =>
    rw [leadsTo] at leads
    split at leads
    · contradiction
    · rename_i q known
      rcases Bool.or_eq_true_iff.mp leads with same | further
      · exact .single (beq_iff_eq.mp same ▸ known)
      · exact .head known (ih further)

theorem chainStarts (chain : Chain parent? n a) : ∃ q, parent? n = some q := by
  obtain ⟨q, known, _⟩ := TransGen.head'_iff.mp chain
  exact ⟨q, known⟩

variable (earlier : ∀ n q, parent? n = some q → q < n)

include earlier

theorem chainDescends (chain : Chain parent? n a) : a < n := by
  induction chain with
  | single known => exact earlier _ _ known
  | tail _ known less => exact Nat.lt_trans (earlier _ _ known) less

theorem chainLeadsTo (chain : Chain parent? n a) (room : n ≤ m) : leadsTo parent? a m n = true := by
  induction chain using TransGen.head_induction_on generalizing m with
  | single known =>
    have less := earlier _ _ known
    obtain ⟨m, rfl⟩ : ∃ j, m = j + 1 := ⟨m - 1, by omega⟩
    simp [leadsTo, known]
  | @head b c known _ ih =>
    have less := earlier _ _ known
    obtain ⟨m, rfl⟩ : ∃ j, m = j + 1 := ⟨m - 1, by omega⟩
    have rest : leadsTo parent? a m c = true := ih (by omega)
    simp [leadsTo, known, rest]

end Chains

namespace Page

variable {p : Page} {a b x y n : Nat}

/- Document order: a node comes before everything below it, and nothing else stands in between. -/
structure InOrder (p : Page) : Prop where
  after : ∀ {n a}, p.isBelow n a = true → a < n
  block : ∀ {n m a}, p.isBelow n a = true → a < m → m < n → p.isBelow m a = true

theorem parentInside (known : p.parent? n = some a) : n < p.size := by
  unfold parent? at known
  cases node : p.nodes[n]? with
  | none => simp [node] at known
  | some found => exact (List.getElem?_eq_some_iff.mp node).1

theorem belowInside (below : p.isBelow n a = true) : n < p.size := by
  obtain ⟨q, known⟩ := chainStarts (leadsToChain below)
  exact parentInside known

theorem parentBelow (known : p.parent? n = some a) : p.isBelow n a = true := by
  have inside := parentInside known
  obtain ⟨k, size⟩ : ∃ k, p.size = k + 1 := ⟨p.size - 1, by omega⟩
  simp [isBelow, size, leadsTo, known]

theorem InOrder.descends (order : p.InOrder) (n q : Nat) (known : p.parent? n = some q) : q < n :=
  order.after (parentBelow known)

theorem InOrder.trans (order : p.InOrder) (one : p.isBelow n b = true) (two : p.isBelow b a = true) :
    p.isBelow n a = true :=
  chainLeadsTo order.descends (TransGen.trans (leadsToChain one) (leadsToChain two))
    (Nat.le_of_lt (belowInside one))

def Precedes (p : Page) (a b : Nat) : Prop := a < b ∧ p.isBelow b a = false

def Within (p : Page) (n a : Nat) : Prop := n = a ∨ p.isBelow n a = true

theorem Precedes.inside (order : p.InOrder) (precedes : p.Precedes a b) (left : p.Within x a)
    (right : p.Within y b) : p.Precedes x y := by
  obtain ⟨less, apart⟩ := precedes
  have notAbove : ¬ p.Within b a := by
    rintro (rfl | below)
    · exact Nat.lt_irrefl _ less
    · simp [below] at apart
  have soon : x < b := by
    rcases left with rfl | below
    · exact less
    · refine Nat.lt_of_not_le fun late => notAbove ?_
      rcases Nat.eq_or_lt_of_le late with rfl | later
      · exact .inr below
      · exact .inr (order.block below less later)
  have late : b ≤ y := by
    rcases right with rfl | below
    · exact Nat.le_refl _
    · exact Nat.le_of_lt (order.after below)
  refine ⟨Nat.lt_of_lt_of_le soon late, ?_⟩
  refine Bool.eq_false_iff.mpr fun under => ?_
  have both : p.isBelow b x = true := by
    rcases Nat.eq_or_lt_of_le late with rfl | later
    · exact under
    · exact order.block under soon later
  rcases left with rfl | below
  · exact notAbove (.inr both)
  · exact notAbove (.inr (order.trans both below))

theorem inOrderOf (parents : ∀ n < p.size, ∀ q, p.parent? n = some q → q < n)
    (blocks : ∀ n < p.size, ∀ m < n, ∀ a < m, p.isBelow n a = true → p.isBelow m a = true) :
    p.InOrder := by
  have descends (n q : Nat) (known : p.parent? n = some q) : q < n :=
    parents n (parentInside known) q known
  exact ⟨fun below => chainDescends descends (leadsToChain below),
    fun below above less => blocks _ (belowInside below) _ less _ above below⟩

end Page

end LocatorPath
