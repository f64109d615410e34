import Mathlib.Data.List.Basic
import LocatorPath.Proofs.Path.Number
import LocatorPath.WebDriver.Server

/-! The texts of tags. A number has no hyphen in it, so the mark in a tag ends at the first one: the tags
of one call are told from those of any other, and the place is read as it was written. -/
namespace LocatorPath.Tag

theorem decimalNoHyphen (n : Nat) : '-' ∉ decimal n := fun inside => by
  simpa using decimalPlain n '-' inside

@[simp] theorem startWritten (m : Mark) : (start (markText m)).toList = decimal m.toNat ++ ['-'] := by
  simp [start, markText, decimal]

@[simp] theorem valueWritten (m : Mark) (place : Nat) :
    (value (markText m) place).toList = decimal m.toNat ++ '-' :: decimal place := by
  simp [value, decimal]

theorem separatorFirst {c : Char} {xs ys rest more : List Char} (left : c ∉ xs) (right : c ∉ ys)
    (same : xs ++ c :: rest = ys ++ c :: more) : xs = ys ∧ rest = more := by
  induction xs generalizing ys with
  | nil =>
    cases ys with
    | nil => simpa using same
    | cons y ys =>
      simp only [List.nil_append, List.cons_append, List.cons.injEq] at same
      simp [← same.1] at right
  | cons x xs ih =>
    cases ys with
    | nil =>
      simp only [List.nil_append, List.cons_append, List.cons.injEq] at same
      simp [same.1] at left
    | cons y ys =>
      simp only [List.cons_append, List.cons.injEq] at same
      obtain ⟨rfl, same⟩ := same
      obtain ⟨rfl, rest⟩ := ih (fun inside => left (List.mem_cons_of_mem x inside))
        (fun inside => right (List.mem_cons_of_mem x inside)) same
      exact ⟨rfl, rest⟩

theorem separatorLast {c : Char} {xs ys rest more : List Char} (left : c ∉ rest) (right : c ∉ more)
    (same : xs ++ c :: rest = ys ++ c :: more) : xs = ys ∧ rest = more := by
  have turned : rest.reverse ++ c :: xs.reverse = more.reverse ++ c :: ys.reverse := by
    simpa using congrArg List.reverse same
  obtain ⟨ends, begins⟩ := separatorFirst (by simpa using left) (by simpa using right) turned
  exact ⟨List.reverse_injective begins, List.reverse_injective ends⟩

theorem markTextInj {m k : Mark} (same : decimal m.toNat = decimal k.toNat) : m = k := by
  have values := congrArg decimalValue same
  rw [decimalExact, decimalExact] at values
  exact UInt64.toNat_inj.mp values

theorem taggedLike {m : Mark} {tag : Option String} (tagged : Server.isTagged m tag = true) :
    ∃ text rest, tag = some text ∧ text.toList = decimal m.toNat ++ '-' :: rest := by
  rw [Server.isTagged, Option.any_eq_true] at tagged
  obtain ⟨text, rfl, starts⟩ := tagged
  rw [List.isPrefixOf_iff_prefix, startWritten] at starts
  obtain ⟨rest, same⟩ := starts
  exact ⟨text, rest, rfl, by simp [← same]⟩

/- A tag starts like those of one call only. -/
theorem oneMark {m k : Mark} {tag : Option String} (first : Server.isTagged m tag = true)
    (second : Server.isTagged k tag = true) : m = k := by
  obtain ⟨text, rest, rfl, starts⟩ := taggedLike first
  obtain ⟨_, more, ⟨⟩, begins⟩ := taggedLike second
  exact markTextInj
    (separatorFirst (decimalNoHyphen _) (decimalNoHyphen _) (starts.symm.trans begins)).1

@[simp] theorem ownTagged (m : Mark) (place : Nat) :
    Server.isTagged m (some (value (markText m) place)) = true := by
  simp [Server.isTagged]

theorem notTagged {m k : Mark} (apart : m ≠ k) (place : Nat) :
    Server.isTagged m (some (value (markText k) place)) = false :=
  Bool.eq_false_iff.mpr fun tagged => apart (oneMark tagged (ownTagged k place))

theorem readPlaceDecimal {n : Nat} (fits : n < UInt64.size) : readPlace (decimal n) = some n := by
  have plain := decimalPlain n
  have some : decimal n ≠ [] := Nat.toDigits_ne_nil
  have noPlus (rest : List Char) : decimal n ≠ '+' :: rest := fun same => by
    have digit := plain '+' (same ▸ List.mem_cons_self)
    simp at digit
  have digits : (decimal n).all Char.isDigit = true := List.all_eq_true.mpr plain
  have exact : (decimal n).foldl (fun n c => 10 * n + (c.toNat - 48)) 0 = n := decimalExact n
  simp [readPlace, digits, exact, fits, some]

theorem placeOfValue (m : Mark) {place : Nat} (fits : place < UInt64.size) :
    place? (markText m) (value (markText m) place) = some place := by
  have rest : (start (markText m)).toList.isPrefixOf? (value (markText m) place).toList =
      some (decimal place) := by
    simp
  rw [place?, rest]
  exact readPlaceDecimal fits

theorem orderOfValue (m : Mark) {place : Nat} (fits : place < UInt64.size) :
    order (markText m) (some (value (markText m) place)) = place := by
  simp [order, placeOfValue m fits]

section Sorting

variable {α : Type}

theorem sortedByFirst (ps : List (Nat × α)) :
    (ps.mergeSort fun p q => p.1 ≤ q.1).Pairwise fun p q => p.1 ≤ q.1 := by
  have trans (p q r : Nat × α) : decide (p.1 ≤ q.1) → decide (q.1 ≤ r.1) → decide (p.1 ≤ r.1) := by
    simpa using Nat.le_trans
  have total (p q : Nat × α) : decide (p.1 ≤ q.1) || decide (q.1 ≤ p.1) := by
    simpa using Nat.le_total p.1 q.1
  exact (List.pairwise_mergeSort trans total ps).imp of_decide_eq_true

theorem sortedByKey (key : α → Nat) (found : List α) :
    (((found.map fun a => (key a, a)).mergeSort fun p q => p.1 ≤ q.1).map Prod.snd).Perm found ∧
      (((found.map fun a => (key a, a)).mergeSort fun p q => p.1 ≤ q.1).map Prod.snd).Pairwise
        fun a b => key a ≤ key b := by
  constructor
  · have sorted := (List.mergeSort_perm (found.map fun a => (key a, a)) fun p q => p.1 ≤ q.1).map Prod.snd
    rwa [List.map_map, show Prod.snd ∘ (fun a => (key a, a)) = id from rfl, List.map_id] at sorted
  · have keyed (p : Nat × α) (inside : p ∈ (found.map fun a => (key a, a)).mergeSort fun p q => p.1 ≤ q.1) :
        key p.2 = p.1 := by
      obtain ⟨a, _, rfl⟩ := List.mem_map.mp (List.mem_mergeSort.mp inside)
      rfl
    refine List.pairwise_map.mpr ((sortedByFirst _).imp_of_mem fun {p q} left right below => ?_)
    rw [keyed p left, keyed q right]
    exact below

end Sorting

end LocatorPath.Tag
