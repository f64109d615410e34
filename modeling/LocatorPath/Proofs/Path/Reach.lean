import LocatorPath.Proofs.Path.Reparse
import LocatorPath.Resolve.Path

/-! Aliases that can be registered and those that a path can name. A registry refuses blank aliases only, so it holds
some that no segment is read as, and some that are only read behind a modifier. -/
namespace LocatorPath
open Unicode (trim)

def Reached (s : Step) : Prop := ∃ path steps, parse path = .ok steps ∧ s ∈ steps

def Nameable (name : String) : Prop := trim name.toList = name.toList ∧ name ≠ "this" ∧ Unbroken name.toList

theorem reachedSettled {s : Step} (reached : Reached s) : Settled s := by
  obtain ⟨path, steps, read, inside⟩ := reached
  exact parseSettled read s inside

theorem settledReached {s : Step} (settled : Settled s) (steady : ¬ Slips s) : Reached s := by
  refine ⟨renderPath [s], [s], ?_, List.mem_singleton_self s⟩
  rw [parseRendered (by simp) (by simpa using settled.alone)]
  exact .cons (renderReads settled steady) .nil

theorem modifiedUnbroken {t : Target} {modifier : Modifier}
    (whole : Unbroken (Step.mk t (some modifier)).written) : Unbroken t.written := by
  have last (front : List Char) (word : List Char) (ends : endsHash false word = false) (nonempty : word ≠ [])
      (whole : Unbroken (front ++ word ++ t.written)) : Unbroken t.written := by
    rw [← List.append_nil (front ++ word ++ t.written)] at whole
    refine partUnbroken whole ?_
    obtain ⟨c, rest, rfl⟩ := List.exists_cons_of_ne_nil nonempty
    rw [endsHashAppend]
    exact ends
  cases modifier with
  | index spec => exact last spec.written (chars " of ") rfl (by decide) whole
  | text f c => exact last (c.written ++ f.written) (chars " in ") rfl (by decide) whole

theorem reachedNameable {name : String} {modifier : Option Modifier}
    (settled : Settled ⟨.named name, modifier⟩) : Nameable name := by
  obtain ⟨_, trimmed, other⟩ := settled.name name modifier rfl
  refine ⟨trimmed, other, ?_⟩
  cases modifier with
  | none => exact settled.unbroken
  | some modifier => exact modifiedUnbroken settled.unbroken

/- Any index would do: its text takes no part of the alias behind it. -/
theorem indexReached {name : String} (nonempty : name ≠ "") (nameable : Nameable name) (line : '\n' ∉ name.toList) :
    Reached ⟨.named name, some (.index (.exact .first))⟩ := by
  obtain ⟨trimmed, other, whole⟩ := nameable
  have text : TargetText name.toList (.named name) := by
    have named : TargetText name.toList (.named (String.ofList (trim name.toList))) := by
      refine .named ?_ ?_
      · rw [trimmed]
        simpa using nonempty
      · rw [trimmed]
        exact fun same => other (String.toList_injective same)
    rwa [trimmed, String.ofList_toList] at named
  refine settledReached (readIndexSettled text line whole) ?_
  intro slips
  obtain ⟨n, f, c, same, _⟩ := slips
  cases same

theorem plainReached {name : String} (nonempty : name ≠ "") : Reached (.named name) ↔ Nameable name ∧
    ¬ HasSigil name.toList ∧ ¬ AfterAll HasIndex name.toList ∧ ¬ AfterAll HasFilter name.toList := by
  constructor
  · intro reached
    have settled := reachedSettled reached
    exact ⟨reachedNameable settled, settled.plain name rfl⟩
  · intro named
    obtain ⟨⟨trimmed, other, whole⟩, plain⟩ := named
    have settled : Settled (.named name) := {
      name := fun n m same => by
        cases same
        exact ⟨nonempty, trimmed, other⟩
      unbroken := whole
      line := nofun
      value := nofun
      cut := nofun
      noIndex := nofun
      plain := fun n same => by
        cases same
        exact plain }
    refine settledReached settled ?_
    intro slips
    obtain ⟨n, f, c, same, _⟩ := slips
    cases same

theorem allIndexLine {cs : List Char} (shape : AfterAll HasIndex cs) : '\n' ∉ cs := by
  obtain ⟨rest, rfl, index, target, ⟨token, text, rfl⟩, line⟩ := shape
  have free : '\n' ∉ token := by
    cases text with
    | first => decide
    | last => decide
    | nth run => exact run.avoids (by decide)
    | between lowRun highRun =>
      have low := lowRun.avoids (c := '\n') (by decide)
      have high := highRun.avoids (c := '\n') (by decide)
      simp [low, high]
    | above run | below run =>
      have digits := run.avoids (c := '\n') (by decide)
      simp [digits]
  simp [chars, free, line.2]

theorem allFilterLine {cs : List Char} (shape : AfterAll HasFilter cs) : '\n' ∉ cs := by
  obtain ⟨rest, rfl, kind, value, target, _, line⟩ := shape
  simp [chars, line]

theorem someReached {name : String} (nonempty : name ≠ "") :
    (∃ path steps, parse path = .ok steps ∧ ∃ s ∈ steps, s.target = .named name) ↔
      Nameable name ∧ ('\n' ∉ name.toList ∨ ¬ HasSigil name.toList) := by
  constructor
  · intro reached
    obtain ⟨path, steps, read, ⟨t, modifier⟩, inside, rfl⟩ := reached
    have settled := parseSettled read _ inside
    refine ⟨reachedNameable settled, ?_⟩
    cases modifier with
    | none => exact .inr (settled.plain name rfl).1
    | some modifier => exact .inl (settled.line name modifier rfl)
  · intro named
    obtain ⟨nameable, shape⟩ := named
    have reached : ∃ modifier, Reached ⟨.named name, modifier⟩ := by
      by_cases line : '\n' ∈ name.toList
      · have start := shape.resolve_left (not_not.mpr line)
        have noAll := mt allIndexLine (not_not.mpr line)
        have noFilter := mt allFilterLine (not_not.mpr line)
        exact ⟨_, (plainReached nonempty).mpr ⟨nameable, start, noAll, noFilter⟩⟩
      · exact ⟨_, indexReached nonempty nameable line⟩
    obtain ⟨modifier, path, steps, read, inside⟩ := reached
    exact ⟨path, steps, read, _, inside, rfl⟩

theorem modifierRefused {m : Type → Type} [Monad m] {α : Type} (r : Resolver m α) {current : Option Definition}
    {name : String} {d : Definition} (found : r.lookup current name = .ok d) (single : d.isCollection = false)
    (scope : Scope α) (modifier : Modifier) :
    r.step current scope ⟨.named name, some modifier⟩ =
      throw (.invalidModifier (Step.mk (.named name) (some modifier)).render (.notCollection name)) := by
  simp only [Resolver.step, found, single]
  rfl

theorem insertedNamed {r later : Registry} {d : Definition} (inserted : r.insert d = .ok later) : d.name ≠ "" := by
  intro none
  simp [Registry.insert, none] at inserted

/- Which of the aliases that a registry takes a path can name at all, and which without a modifier. The others are of
no use where their definition is not a collection. -/
theorem registeredReached {r later : Registry} {d : Definition} (inserted : r.insert d = .ok later) :
    ((∃ path steps, parse path = .ok steps ∧ ∃ s ∈ steps, s.target = .named d.name) ↔
      Nameable d.name ∧ ('\n' ∉ d.name.toList ∨ ¬ HasSigil d.name.toList)) ∧
    ((∃ path steps, parse path = .ok steps ∧ .named d.name ∈ steps) ↔
      Nameable d.name ∧ ¬ HasSigil d.name.toList ∧ ¬ AfterAll HasIndex d.name.toList ∧
        ¬ AfterAll HasFilter d.name.toList) ∧
    (d.isCollection = false → ∀ {m : Type → Type} [Monad m] {α : Type} (x : Resolver m α) current scope modifier,
      x.lookup current d.name = .ok d → x.step current scope ⟨.named d.name, some modifier⟩ =
        throw (.invalidModifier (Step.mk (.named d.name) (some modifier)).render (.notCollection d.name))) := by
  have nonempty := insertedNamed inserted
  refine ⟨someReached nonempty, plainReached nonempty, ?_⟩
  intro single m _ α x current scope modifier found
  exact modifierRefused x found single scope modifier

theorem registeredReachedAll :
    (∃ later, Registry.empty.insert (.element "all #1 of rows" (.css "tr")) = .ok later) ∧
      (∃ path steps, parse path = .ok steps ∧ ∃ s ∈ steps, s.target = .named "all #1 of rows") ∧
      ¬ ∃ path steps, parse path = .ok steps ∧ .named "all #1 of rows" ∈ steps := by
  have inserted : Registry.empty.insert (.element "all #1 of rows" (.css "tr")) =
      .ok {definitions := [.element "all #1 of rows" (.css "tr")]} := by decide +kernel
  obtain ⟨some, plain, _⟩ := registeredReached inserted
  refine ⟨⟨_, inserted⟩, some.mpr ⟨⟨by decide +kernel, by decide, ?_⟩, .inl (by decide)⟩, ?_⟩
  · exact unbrokenIffPieces.mpr (by decide)
  · intro reached
    exact (plain.mp reached).2.2.1 (afterAllIndexIff.mpr (by decide +kernel))

end LocatorPath
