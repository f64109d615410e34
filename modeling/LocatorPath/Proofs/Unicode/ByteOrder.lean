import Mathlib.Tactic.SplitIfs
import LocatorPath.Octets

/-! Texts are in the order of their characters. Their UTF-8 forms are in the same order, octet by octet. -/
namespace LocatorPath.Octets

def Differ : Octets → Octets → Prop
  | x :: xs, y :: ys => x < y ∨ x = y ∧ Differ xs ys
  | _, _ => False

theorem Differ.below {xs ys : Octets} (differ : Differ xs ys) (front back : Octets) :
    xs ++ front < ys ++ back := by
  induction xs generalizing ys with
  | nil => exact absurd differ id
  | cons x xs ih =>
    cases ys with
    | nil => exact absurd differ id
    | cons y ys =>
      rw [List.cons_append, List.cons_append, List.cons_lt_cons_iff]
      exact differ.imp_right fun ⟨same, rest⟩ => ⟨same, ih rest⟩

/- A longer form begins with a greater octet. Among forms of one length the digits decide, the highest first. -/
theorem encodedDiffer {c d : Char} (less : c < d) :
    Differ (String.utf8EncodeChar c) (String.utf8EncodeChar d) := by
  have below : c.val.toNat < d.val.toNat := less
  have valid : d.val.toNat < 0x110000 := by
    have := d.valid
    simp only [UInt32.isValidChar, Nat.isValidChar] at this
    omega
  simp only [String.utf8EncodeChar]
  generalize c.val.toNat = v at below
  generalize d.val.toNat = w at below valid
  have digits (n : Nat) : n / 4096 = n / 64 / 64 ∧ n / 262144 = n / 64 / 64 / 64 := by omega
  simp only [digits v, digits w]
  split_ifs <;> simp only [Differ, UInt8.lt_iff_toNat_lt, ← UInt8.toNat_inj, UInt8.toNat_ofNat'] <;>
    simp (disch := omega) only [Nat.mod_eq_of_lt] <;> omega

theorem flatMapBelow {cs ds : List Char} (less : cs < ds) :
    cs.flatMap String.utf8EncodeChar < ds.flatMap String.utf8EncodeChar := by
  induction ds generalizing cs with
  | nil => exact absurd less (List.not_lt_nil cs)
  | cons d ds ih =>
    cases cs with
    | nil =>
      obtain ⟨x, xs, form⟩ := List.exists_cons_of_ne_nil (String.utf8EncodeChar_ne_nil (c := d))
      rw [List.flatMap_cons, form]
      exact List.nil_lt_cons _ _
    | cons c cs =>
      rw [List.flatMap_cons, List.flatMap_cons]
      rcases List.cons_lt_cons_iff.mp less with first | ⟨rfl, rest⟩
      · exact (encodedDiffer first).below _ _
      · exact List.append_left_lt (ih rest)

theorem ofTextBelow {a b : String} (less : a < b) : ofText a < ofText b := flatMapBelow less

end LocatorPath.Octets
