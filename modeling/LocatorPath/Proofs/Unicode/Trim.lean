import Mathlib.Data.List.Basic
import Mathlib.Data.List.Induction
import Mathlib.Data.List.TakeWhile
import LocatorPath.Unicode.Character

/-! Text without white space around it. Trimming cuts a text in three, and the middle part is the
only one that can be kept: it has no blank at either end. -/
namespace LocatorPath.Unicode

def Blank (cs : List Char) : Prop := ∀ c ∈ cs, isBlank c = true

def Trimmed (cs : List Char) : Prop :=
  (∀ c, cs.head? = some c → isBlank c = false) ∧ (∀ c, cs.getLast? = some c → isBlank c = false)

theorem blankNil : Blank [] := fun _ inside => by simp at inside

theorem trimEndCuts (cs : List Char) : ∃ back, cs = trimEnd cs ++ back ∧ Blank back := by
  induction cs with
  | nil => exact ⟨[], rfl, blankNil⟩
  | cons c rest ih =>
    obtain ⟨back, cut, blank⟩ := ih
    unfold trimEnd
    split
    · next none =>
      rw [none, List.nil_append] at cut
      split
      · next head => exact ⟨c :: rest, rfl, by simpa [Blank, head, cut] using blank⟩
      · exact ⟨rest, rfl, by rwa [cut]⟩
    · exact ⟨back, by rw [List.cons_append, ← cut], blank⟩

theorem trimEndLast (cs : List Char) (c : Char) (last : (trimEnd cs).getLast? = some c) :
    isBlank c = false := by
  induction cs with
  | nil => simp [trimEnd] at last
  | cons d rest ih =>
    unfold trimEnd at last
    split at last
    · split at last
      · simp at last
      · next plain =>
        simp only [List.getLast?_singleton, Option.some.injEq] at last
        rw [← last]
        exact Bool.eq_false_iff.mpr plain
    · next kept =>
      rw [List.getLast?_cons, List.getLast?_eq_some_getLast kept] at last
      exact ih (by rw [List.getLast?_eq_some_getLast kept]; exact last)

theorem trimEndAppend (cs : List Char) {back : List Char} (blank : Blank back) :
    trimEnd (cs ++ back) = trimEnd cs := by
  induction cs with
  | nil =>
    induction back with
    | nil => rfl
    | cons c rest ih =>
      have tail : trimEnd rest = [] := ih fun d inside => blank d (List.mem_cons_of_mem _ inside)
      simp [trimEnd, tail, blank c List.mem_cons_self]
  | cons c rest ih => simp only [List.cons_append, trimEnd, ih]

theorem trimEndSelf {cs : List Char} (last : ∀ c, cs.getLast? = some c → isBlank c = false) :
    trimEnd cs = cs := by
  obtain ⟨back, cut, blank⟩ := trimEndCuts cs
  cases back using List.reverseRecOn with
  | nil => simpa using cut.symm
  | append_singleton rest c =>
    have plain := last c (by rw [cut, ← List.append_assoc, List.getLast?_concat])
    rw [blank c (by simp)] at plain
    contradiction

theorem trimCuts (cs : List Char) :
    ∃ front back, cs = front ++ trim cs ++ back ∧ Blank front ∧ Blank back := by
  obtain ⟨back, cut, blank⟩ := trimEndCuts (cs.dropWhile isBlank)
  refine ⟨cs.takeWhile isBlank, back, ?_, ?_, blank⟩
  · rw [List.append_assoc, trim, ← cut, List.takeWhile_append_dropWhile]
  · intro c inside
    exact List.all_eq_true.mp List.all_takeWhile c inside

theorem trimTrimmed (cs : List Char) : Trimmed (trim cs) := by
  refine ⟨?_, trimEndLast _⟩
  intro c head
  obtain ⟨back, cut, _⟩ := trimEndCuts (cs.dropWhile isBlank)
  have first : (cs.dropWhile isBlank).head? = some c := by
    rw [cut, List.head?_append]
    simp only [trim] at head
    simp [head]
  have plain := List.head?_dropWhile_not isBlank cs
  simpa [first] using plain

theorem trimAround {front cs back : List Char} (before : Blank front) (after : Blank back)
    (trimmed : Trimmed cs) : trim (front ++ cs ++ back) = cs := by
  unfold trim
  rw [List.append_assoc, List.dropWhile_append_of_pos before]
  cases cs with
  | nil =>
    rw [List.nil_append]
    have gone : back.dropWhile isBlank = [] := List.dropWhile_eq_nil_iff.mpr after
    rw [gone]; rfl
  | cons c rest =>
    rw [List.cons_append, List.dropWhile_cons_of_neg (by simp [trimmed.1 c rfl]),
      ← List.cons_append, trimEndAppend _ after]
    exact trimEndSelf trimmed.2

theorem trimmedBetween {c : Char} {middle back : List Char} (head : isBlank c = false)
    (nonempty : back ≠ []) (trimmed : Trimmed back) : Trimmed (c :: (middle ++ back)) := by
  refine ⟨fun d first => ?_, fun d last => trimmed.2 d ?_⟩
  · cases first
    exact head
  · rwa [← List.cons_append, List.getLast?_append_of_ne_nil _ nonempty] at last

theorem trimSelf {cs : List Char} : trim cs = cs ↔ Trimmed cs := by
  constructor
  · intro same
    rw [← same]
    exact trimTrimmed cs
  · intro trimmed
    simpa using trimAround blankNil blankNil trimmed

theorem trimNone {cs : List Char} : trim cs = [] ↔ Blank cs := by
  constructor
  · intro none
    obtain ⟨front, back, cut, before, after⟩ := trimCuts cs
    rw [none, List.append_nil] at cut
    intro c inside
    rw [cut] at inside
    exact (List.mem_append.mp inside).elim (before c) (after c)
  · intro blank
    have trimmed : Trimmed [] := ⟨by simp, by simp⟩
    simpa using trimAround blank blankNil trimmed

end LocatorPath.Unicode
