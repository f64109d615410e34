import Mathlib.Order.Lattice.Nat
import LocatorPath.Definition.Registry

/-! The edit distance is the least number of edits that make one text of another. Edits are made anywhere and in any
order, while a distance is computed from the first characters alone. That no other way is shorter follows from one
fact: an edit changes the distance to any text by one at most. -/
namespace LocatorPath

inductive Edit : List Char → List Char → Prop
  | insert (front : List Char) (c : Char) (back : List Char) : Edit (front ++ back) (front ++ c :: back)
  | delete (front : List Char) (c : Char) (back : List Char) : Edit (front ++ c :: back) (front ++ back)
  | substitute (front : List Char) (c d : Char) (back : List Char) : Edit (front ++ c :: back) (front ++ d :: back)

inductive Edited : Nat → List Char → List Char → Prop
  | same (xs : List Char) : Edited 0 xs xs
  | next {n : Nat} {xs ys zs : List Char} (first : Edit xs ys) (rest : Edited n ys zs) : Edited (n + 1) xs zs

noncomputable def leastEdits (xs ys : List Char) : Nat := sInf {n | Edited n xs ys}

section Distances

variable {x y : Char} {xs ys : List Char}

theorem distancesTail (xs : List Char) (y : Char) (ys : List Char) :
    (distances xs (y :: ys)).tail = distances xs ys := by
  induction xs with
  | nil => simp [distances, List.range_succ]
  | cons x xs ih => rw [distances, distances, distanceRow, List.tail_cons, ih]

@[simp] theorem distanceNil (ys : List Char) : editDistance [] ys = ys.length := by
  simp [editDistance, distances, List.range_succ]

@[simp] theorem distanceEnd (x : Char) (xs : List Char) : editDistance (x :: xs) [] = editDistance xs [] + 1 := rfl

theorem distanceCons (x y : Char) (xs ys : List Char) : editDistance (x :: xs) (y :: ys) =
    if x = y then editDistance xs ys
    else 1 + min (editDistance xs ys) (min (editDistance xs (y :: ys)) (editDistance (x :: xs) ys)) := by
  simp only [editDistance, distances, distanceRow, List.headD_cons, distancesTail]

theorem distanceSelf (xs : List Char) : editDistance xs xs = 0 := by
  induction xs with
  | nil => rfl
  | cons x xs ih => rw [distanceCons, if_pos rfl, ih]

theorem distanceSymm (xs ys : List Char) : editDistance xs ys = editDistance ys xs := by
  induction xs generalizing ys with
  | nil =>
    induction ys with
    | nil => rfl
    | cons y ys ih => simp [← ih]
  | cons x xs outer =>
    induction ys with
    | nil => simp [outer]
    | cons y ys inner =>
      rw [distanceCons, distanceCons, outer, outer, inner, min_comm (editDistance (y :: ys) xs)]
      exact if_congr eq_comm rfl rfl

/- One more character changes a distance by one at most, whatever side it is on. The induction is on both texts, since
each half of the statement needs the other one for shorter texts. -/
theorem distanceNear (xs ys : List Char) : (∀ x, editDistance (x :: xs) ys ≤ editDistance xs ys + 1) ∧
    ∀ y, editDistance xs ys ≤ editDistance xs (y :: ys) + 1 := by
  induction xs generalizing ys with
  | nil =>
    induction ys with
    | nil => exact ⟨fun x => Nat.le_of_eq (distanceEnd x []), fun y => Nat.zero_le _⟩
    | cons y ys ih =>
      refine ⟨fun x => ?_, fun z => ?_⟩
      · have shorter := ih.2 y
        rw [distanceCons]
        split <;> omega
      · simp only [distanceNil, List.length_cons]
        omega
  | cons x xs outer =>
    have longer (ys : List Char) (z : Char) : editDistance (x :: xs) ys ≤ editDistance (x :: xs) (z :: ys) + 1 := by
      have here := (outer ys).1 x
      have next := (outer ys).2 z
      rw [distanceCons]
      split <;> omega
    refine ⟨fun z => ?_, longer ys⟩
    cases ys with
    | nil => exact Nat.le_of_eq (distanceEnd z (x :: xs))
    | cons y ys =>
      have shorter := longer ys y
      rw [distanceCons z]
      split <;> omega

theorem distanceLonger (x : Char) (xs ys : List Char) : editDistance (x :: xs) ys ≤ editDistance xs ys + 1 :=
  (distanceNear xs ys).1 x

theorem distanceShorter (x : Char) (xs ys : List Char) : editDistance xs ys ≤ editDistance (x :: xs) ys + 1 := by
  rw [distanceSymm, distanceSymm (x :: xs)]
  exact (distanceNear ys xs).2 x

theorem distanceOther (x z : Char) (xs ys : List Char) :
    editDistance (x :: xs) ys ≤ editDistance (z :: xs) ys + 1 := by
  cases ys with
  | nil => exact Nat.le_succ _
  | cons y ys =>
    have next := (distanceNear xs ys).2 y
    have first := distanceShorter z xs ys
    rw [distanceCons, distanceCons]
    split <;> split <;> omega

theorem distanceAround {back other : List Char} (near : ∀ ys, editDistance back ys ≤ editDistance other ys + 1)
    (front ys : List Char) : editDistance (front ++ back) ys ≤ editDistance (front ++ other) ys + 1 := by
  induction front generalizing ys with
  | nil => exact near ys
  | cons c front outer =>
    induction ys with
    | nil => exact Nat.succ_le_succ (outer [])
    | cons y ys inner =>
      have here := outer ys
      have longer := outer (y :: ys)
      simp only [List.cons_append] at inner ⊢
      rw [distanceCons, distanceCons]
      split <;> omega

theorem editNear {zs : List Char} (edit : Edit xs zs) (ys : List Char) :
    editDistance xs ys ≤ editDistance zs ys + 1 := by
  cases edit with
  | insert front c back => exact distanceAround (distanceShorter c back) front ys
  | delete front c back => exact distanceAround (distanceLonger c back) front ys
  | substitute front c d back => exact distanceAround (distanceOther c d back) front ys

theorem editedFar {n : Nat} (edited : Edited n xs ys) : editDistance xs ys ≤ n := by
  induction edited with
  | same xs => exact Nat.le_of_eq (distanceSelf xs)
  | next first _ ih => exact (editNear first _).trans (Nat.succ_le_succ ih)

theorem editCons (c : Char) (edit : Edit xs ys) : Edit (c :: xs) (c :: ys) := by
  cases edit with
  | insert front d back => exact .insert (c :: front) d back
  | delete front d back => exact .delete (c :: front) d back
  | substitute front d e back => exact .substitute (c :: front) d e back

theorem editedCons {n : Nat} (c : Char) (edited : Edited n xs ys) : Edited n (c :: xs) (c :: ys) := by
  induction edited with
  | same xs => exact .same (c :: xs)
  | next first _ ih => exact .next (editCons c first) ih

/- The edits that a distance counts: they are made at the front, as the recursion tells them apart. -/
theorem editedNearest (xs ys : List Char) : Edited (editDistance xs ys) xs ys := by
  induction xs generalizing ys with
  | nil =>
    rw [distanceNil]
    induction ys with
    | nil => exact .same []
    | cons y ys ih => exact .next (.insert [] y []) (editedCons y ih)
  | cons x xs outer =>
    induction ys with
    | nil => exact .next (.delete [] x xs) (outer [])
    | cons y ys inner =>
      rw [distanceCons]
      split
      · next same => exact same ▸ editedCons x (outer ys)
      · rw [Nat.add_comm]
        rcases min_choice (editDistance xs ys) (min (editDistance xs (y :: ys)) (editDistance (x :: xs) ys)) with
          least | least
        · rw [least]
          exact .next (.substitute [] x y xs) (editedCons y (outer ys))
        · rw [least]
          rcases min_choice (editDistance xs (y :: ys)) (editDistance (x :: xs) ys) with least | least
          · rw [least]
            exact .next (.delete [] x xs) (outer (y :: ys))
          · rw [least]
            exact .next (.insert [] y (x :: xs)) (editedCons y inner)

theorem distanceLeast (xs ys : List Char) : editDistance xs ys = leastEdits xs ys := by
  have least : IsLeast {n | Edited n xs ys} (editDistance xs ys) :=
    ⟨editedNearest xs ys, fun _ edited => editedFar edited⟩
  exact least.csInf_eq.symm

example : editDistance "buton".toList "buttons".toList = 2 := by decide

end Distances

end LocatorPath
