import Mathlib.Data.List.Pairwise
import LocatorPath.Proofs.WebDriver.Tag
import LocatorPath.WebDriver.Client

/-! Tags as a code. What is searched for under one mark starts no tag of another mark, and a place is read from the tags
of its own mark only. So nodes that are sorted by what is read from their tags come in the order of their places, with
the nodes of other marks behind them. -/
namespace LocatorPath.Tag

section Telling

theorem startOfIff (m k : Mark) (place : Nat) :
    (start (markText k)).toList <+: (value (markText m) place).toList ↔ m = k := by
  have tagged : Server.isTagged k (some (value (markText m) place)) = true ↔
      (start (markText k)).toList <+: (value (markText m) place).toList := by
    rw [Server.isTagged, Option.any_some, List.isPrefixOf_iff_prefix]
  rw [← tagged]
  constructor
  · intro starts
    exact oneMark (ownTagged m place) starts
  · rintro rfl
    exact ownTagged m place

theorem noOtherPlace {m k : Mark} (apart : m ≠ k) (place : Nat) :
    place? (markText k) (value (markText m) place) = none := by
  have other : (start (markText k)).toList.isPrefixOf? (value (markText m) place).toList = none := by
    refine Option.eq_none_iff_forall_ne_some.mpr fun rest same => apart ?_
    exact (startOfIff m k place).mp ⟨rest, List.isPrefixOf?_eq_some_iff_append_eq.mp same⟩
  rw [place?, other]
  rfl

theorem orderOfOther {m k : Mark} (apart : m ≠ k) (place : Nat) :
    order (markText k) (some (value (markText m) place)) = UInt64.size - 1 := by
  simp [order, noOtherPlace apart]

end Telling

section Sorting

variable {n : Type → Type} [Monad n] [LawfulMonad n] {α : Type} {w : Wire n α} {mark : Mark} {found : List α}
  {tagOf : α → Option String}

theorem readPlacesOf (reads : ∀ a ∈ found, w (.readTag a) = pure (.tag (tagOf a))) :
    Client.readPlaces w mark found = pure (found.map fun a => (order (markText mark) (tagOf a), a)) := by
  induction found with
  | nil => rfl
  | cons a rest ih =>
    obtain ⟨head, tail⟩ := List.forall_mem_cons.mp reads
    have told : ExceptT.adapt Client.elementError (w.askTag (.readTag a)) = pure (tagOf a) := by
      rw [Wire.askTag, head, pure_bind]
      exact (map_pure _ _)
    rw [Client.readPlaces, told, pure_bind, ih tail, pure_bind]
    rfl

theorem findTaggedOf (finds : w (.findTagged mark) = pure (.elements found))
    (reads : ∀ a ∈ found, w (.readTag a) = pure (.tag (tagOf a))) : Client.findTagged w mark =
      pure (((found.map fun a => (order (markText mark) (tagOf a), a)).mergeSort fun p q => p.1 ≤ q.1).map
        Prod.snd) := by
  have told (f : CommandError → DriverError) : ExceptT.adapt f (w.askElements (.findTagged mark)) = pure found := by
    rw [Wire.askElements, finds, pure_bind]
    exact map_pure _ _
  rw [Client.findTagged, told, pure_bind, readPlacesOf reads, pure_bind]

end Sorting

/- The tags of one call are told from all others by what they start with, and their places by what follows, so the nodes
of a call are found in the order of their places. -/
theorem tagsTold (m : Mark) :
    (∀ k place, (∃ text, selector (markText k) = "[" ++ attributeName ++ "^=\"" ++ text ++ "\"]" ∧
        (text.toList <+: (value (markText m) place).toList ↔ m = k)) ∧
      (m ≠ k → place? (markText k) (value (markText m) place) = none)) ∧
    (∀ place < UInt64.size, place? (markText m) (value (markText m) place) = some place) ∧
    ∀ {n : Type → Type} [Monad n] [LawfulMonad n] {α : Type} (w : Wire n α) (found : List α)
      (tagOf : α → Option String), w (.findTagged m) = pure (.elements found) →
      (∀ a ∈ found, w (.readTag a) = pure (.tag (tagOf a))) →
      ∃ sorted, Client.findTagged w m = pure sorted ∧ sorted.Perm found ∧
        (sorted.Pairwise fun a b => ∀ i < UInt64.size, ∀ j < UInt64.size,
          tagOf a = some (value (markText m) i) → tagOf b = some (value (markText m) j) → i ≤ j) ∧
        sorted.Pairwise fun a b => ∀ k i j, k ≠ m → tagOf a = some (value (markText k) i) →
          j < UInt64.size - 1 → tagOf b ≠ some (value (markText m) j) := by
  refine ⟨fun k place => ?_, fun place fits => placeOfValue m fits, fun w found tagOf finds reads => ?_⟩
  · exact ⟨⟨start (markText k), rfl, startOfIff m k place⟩, fun apart => noOtherPlace apart place⟩
  · obtain ⟨perm, sorted⟩ := sortedByKey (fun a => order (markText m) (tagOf a)) found
    refine ⟨_, findTaggedOf finds reads, perm, sorted.imp fun below i hi j hj first second => ?_,
      sorted.imp fun below k i j apart first fits second => ?_⟩
    · rwa [first, second, orderOfValue m hi, orderOfValue m hj] at below
    · rw [first, second, orderOfOther apart, orderOfValue m (Nat.lt_of_lt_of_le fits (Nat.sub_le _ _))] at below
      exact Nat.not_le.mpr fits below

def shuffledTag : Nat → Option String
  | 0 => some (value (markText 7) 10)
  | 1 => some (value (markText 7) 2)
  | _ => some (value (markText 17) 3)

def shuffledWire : Wire Id Nat
  | .findTagged _ => pure (.elements [2, 0, 1])
  | .readTag n => pure (.tag (shuffledTag n))
  | _ => throw .unexpected

/- The tags are "7-10", "7-2" and "17-3": places are numbers, and a mark is read to its end. -/
theorem tagsToldShuffled :
    place? (markText 7) "7-10" = some 10 ∧ place? (markText 7) "17-3" = none ∧
      Client.findTagged shuffledWire 7 = pure [1, 0, 2] := by
  obtain ⟨_, own, sorts⟩ := tagsTold 7
  obtain ⟨sorted, finds, perm, rising, last⟩ := sorts shuffledWire [2, 0, 1] shuffledTag rfl fun n _ => rfl
  refine ⟨own 10 (by decide), ((tagsTold 17).1 7 3).2 (by decide), ?_⟩
  have order : sorted.Pairwise fun a b => [1, 0, 2].idxOf a ≤ [1, 0, 2].idxOf b := by
    refine (rising.and last).imp_of_mem fun {a b} here there ⟨first, second⟩ => ?_
    have left : a = 2 ∨ a = 0 ∨ a = 1 := by simpa using perm.subset here
    have right : b = 2 ∨ b = 0 ∨ b = 1 := by simpa using perm.subset there
    rcases left with rfl | rfl | rfl <;> rcases right with rfl | rfl | rfl
    · decide
    · exact absurd rfl (second 17 3 10 (by decide) rfl (by decide))
    · exact absurd rfl (second 17 3 2 (by decide) rfl (by decide))
    · decide
    · decide
    · exact absurd (first 10 (by decide) 2 (by decide) rfl rfl) (by decide)
    · decide
    · decide
    · decide
  have same : sorted = [1, 0, 2] := by
    refine (perm.trans (by decide)).eq_of_pairwise (fun a b inside there below above => ?_) order (by decide)
    exact ((List.idxOf_inj there).mp (Nat.le_antisymm above below)).symm
  rw [finds, same]

end LocatorPath.Tag
