import LocatorPath.Proofs.Resolve.FanOut

/-! What text filters read, and what they keep. A filter for all elements reads on to the end of a list or to the first
text that it cannot read; one for the first element stops at its match too, and so reads no further. -/
namespace LocatorPath

variable {α β ε : Type}

namespace Outcomes

variable (o : Outcomes α) (f : TextFilter)

def Readable (a : α) : Prop := ∃ text, o.text a = .ok text

def fits (a : α) : Bool :=
  match o.text a with
  | .ok text => f.accepts text
  | .error _ => false

def Misses (a : α) : Prop := ∃ text, o.text a = .ok text ∧ f.accepts text = false

def narrowed (c : Cardinality) (as : List α) : Except ResolveError (Scope α) × List (Call α) :=
  runFrom [] (selectText o.driver f c as)

end Outcomes

inductive ReadsAll (o : Outcomes α) (f : TextFilter) :
    List α → Except ResolveError (Scope α) → List (Call α) → Prop
  | ends {as} (readable : ∀ a ∈ as, o.Readable a) :
      ReadsAll o f as (.ok (.many (as.filter (o.fits f)))) (as.map .text)
  | fails {before a after e} (readable : ∀ b ∈ before, o.Readable b) (fails : o.text a = .error e) :
      ReadsAll o f (before ++ a :: after) (.error (.driver e)) ((before ++ [a]).map .text)

inductive ReadsFirst (o : Outcomes α) (f : TextFilter) :
    List α → Except ResolveError (Scope α) → List (Call α) → Prop
  | finds {before a after} (misses : ∀ b ∈ before, o.Misses f b) (fits : o.fits f a = true) :
      ReadsFirst o f (before ++ a :: after) (.ok (.one a)) ((before ++ [a]).map .text)
  | fails {before a after e} (misses : ∀ b ∈ before, o.Misses f b) (fails : o.text a = .error e) :
      ReadsFirst o f (before ++ a :: after) (.error (.driver e)) ((before ++ [a]).map .text)
  | ends {as} (misses : ∀ a ∈ as, o.Misses f a) : ReadsFirst o f as (.error (.noMatch f)) (as.map .text)

section Texts

variable {o : Outcomes α} {f : TextFilter} {a : α}

theorem fitsRead {text : String} (read : o.text a = .ok text) : o.fits f a = f.accepts text := by
  simp only [Outcomes.fits, read]

theorem fitsReadable (fits : o.fits f a = true) : ∃ text, o.text a = .ok text ∧ f.accepts text = true := by
  cases read : o.text a with
  | ok text => exact ⟨text, rfl, (fitsRead read).symm.trans fits⟩
  | error e => simp [Outcomes.fits, read] at fits

theorem missesIff : o.Misses f a ↔ o.Readable a ∧ o.fits f a = false := by
  constructor
  · rintro ⟨text, read, rejects⟩
    exact ⟨⟨text, read⟩, (fitsRead read).trans rejects⟩
  · rintro ⟨⟨text, read⟩, rejects⟩
    exact ⟨text, read, (fitsRead read).symm.trans rejects⟩

theorem unreadable (stops : ¬ o.Readable a) : ∃ e, o.text a = .error e := by
  cases read : o.text a with
  | ok text => exact absurd ⟨text, read⟩ stops
  | error e => exact ⟨e, rfl⟩

theorem notMissed (stops : ¬ o.Misses f a) : o.fits f a = true ∨ ∃ e, o.text a = .error e := by
  by_cases readable : o.Readable a
  · refine .inl ?_
    rw [← Bool.not_eq_false]
    exact fun rejects => stops (missesIff.mpr ⟨readable, rejects⟩)
  · exact .inr (unreadable readable)

end Texts

/-! ## The reads of one run -/

section Runs

variable {o : Outcomes α} {f : TextFilter} {a : α} {before after : List α} {calls : List (Call α)}

theorem readAnswers {text : String} {next : String → ExceptT ResolveError (Recorder α) β} {out : Except ResolveError β}
    (read : o.text a = .ok text) (rest : Answers (next text) out calls) :
    Answers (fromDriver (o.driver.text a) >>= next) out (.text a :: calls) := by
  have one := textAnswers o a
  rw [read] at one
  exact one.bind rest

theorem failAnswers {e : DriverError} (next : String → ExceptT ResolveError (Recorder α) β)
    (fails : o.text a = .error e) : Answers (fromDriver (o.driver.text a) >>= next) (.error (.driver e)) [.text a] := by
  have one := textAnswers o a
  rw [fails] at one
  exact one.stop next

theorem allAfter {out : Except ResolveError (List α)} (readable : ∀ b ∈ before, o.Readable b)
    (rest : Answers (allWithText o.driver f after) out calls) :
    Answers (allWithText o.driver f (before ++ after)) (out.map (before.filter (o.fits f) ++ ·))
      (before.map .text ++ calls) := by
  induction before with
  | nil =>
    have same : out.map (([] : List α).filter (o.fits f) ++ ·) = out := by cases out <;> rfl
    rw [same]
    exact rest
  | cons b before ih =>
    obtain ⟨⟨text, read⟩, readable⟩ := List.forall_mem_cons.mp readable
    have later := (ih readable).map fun others => if f.accepts text then b :: others else others
    have kept : (out.map (before.filter (o.fits f) ++ ·)).map
        (fun others => if f.accepts text then b :: others else others) =
          out.map ((b :: before).filter (o.fits f) ++ ·) := by
      rw [List.filter_cons, fitsRead read]
      cases out <;> cases f.accepts text <;> rfl
    exact readAnswers read (kept ▸ later)

theorem allRead {as : List α} (readable : ∀ a ∈ as, o.Readable a) :
    Answers (allWithText o.driver f as) (.ok (as.filter (o.fits f))) (as.map .text) := by
  have none : Answers (allWithText o.driver f []) (.ok []) [] := pureAnswers []
  have all := allAfter readable none
  rwa [List.append_nil, List.append_nil, Except.map, List.append_nil] at all

theorem allStopped {e : DriverError} (readable : ∀ b ∈ before, o.Readable b) (fails : o.text a = .error e) :
    Answers (allWithText o.driver f (before ++ a :: after)) (.error (.driver e)) ((before ++ [a]).map .text) := by
  have here : Answers (allWithText o.driver f (a :: after)) (.error (.driver e)) [.text a] := failAnswers _ fails
  rw [List.map_append]
  exact allAfter readable here

theorem firstAfter {out : Except ResolveError (Scope α)} (misses : ∀ b ∈ before, o.Misses f b)
    (rest : Answers (firstWithText o.driver f after) out calls) :
    Answers (firstWithText o.driver f (before ++ after)) out (before.map .text ++ calls) := by
  induction before with
  | nil => exact rest
  | cons b before ih =>
    obtain ⟨⟨text, read, rejects⟩, misses⟩ := List.forall_mem_cons.mp misses
    refine readAnswers read ?_
    rw [rejects]
    exact ih misses

variable {as : List α} {out : Except ResolveError (Scope α)}

theorem readsAllAnswers (reads : ReadsAll o f as out calls) : Answers (selectText o.driver f .all as) out calls := by
  cases reads with
  | ends readable => exact (allRead readable).map Scope.many
  | fails readable fails => exact (allStopped readable fails).map Scope.many

theorem readsFirstAnswers (reads : ReadsFirst o f as out calls) :
    Answers (selectText o.driver f .first as) out calls := by
  cases reads with
  | @finds before a after misses fits =>
    obtain ⟨text, read, accepts⟩ := fitsReadable fits
    have here : Answers (firstWithText o.driver f (a :: after)) (.ok (.one a)) [.text a] := by
      refine readAnswers read ?_
      rw [accepts]
      exact pureAnswers _
    rw [List.map_append]
    exact firstAfter misses here
  | @fails before a after e misses fails =>
    rw [List.map_append]
    exact firstAfter misses (failAnswers _ fails)
  | ends misses =>
    have none : Answers (firstWithText o.driver f []) (.error (.noMatch f)) [] := throwAnswers _
    have all := firstAfter misses none
    rwa [List.append_nil, List.append_nil] at all

theorem readsAllTotal (o : Outcomes α) (f : TextFilter) (as : List α) : ∃ out calls, ReadsAll o f as out calls := by
  rcases firstWithout o.Readable as with all | ⟨before, a, after, rfl, front, stops⟩
  · exact ⟨_, _, .ends all⟩
  · obtain ⟨e, fails⟩ := unreadable stops
    exact ⟨_, _, .fails front fails⟩

theorem readsFirstTotal (o : Outcomes α) (f : TextFilter) (as : List α) : ∃ out calls, ReadsFirst o f as out calls := by
  rcases firstWithout (o.Misses f) as with all | ⟨before, a, after, rfl, front, stops⟩
  · exact ⟨_, _, .ends all⟩
  · rcases notMissed stops with fits | ⟨e, fails⟩
    · exact ⟨_, _, .finds front fits⟩
    · exact ⟨_, _, .fails front fails⟩

theorem upToMember (before : List α) (a : α) (after : List α) : before ++ [a] <+: before ++ a :: after :=
  ⟨after, by simp⟩

theorem ReadsAll.inOrder (reads : ReadsAll o f as out calls) : calls <+: as.map .text := by
  cases reads with
  | ends _ => exact List.prefix_rfl
  | fails _ _ => exact (upToMember _ _ _).map _

theorem ReadsFirst.inOrder (reads : ReadsFirst o f as out calls) : calls <+: as.map .text := by
  cases reads with
  | finds _ _ => exact (upToMember _ _ _).map _
  | fails _ _ => exact (upToMember _ _ _).map _
  | ends _ => exact List.prefix_rfl

/- A relation that has some outcome of a program, and no other than its own, tells its run. -/
theorem runTold {x : ExceptT ε (Recorder α) β} {told : Except ε β → List (Call α) → Prop}
    (total : ∃ out calls, told out calls)
    (sound : ∀ {out calls}, told out calls → Answers x out calls) {out : Except ε β} {calls : List (Call α)} :
    runFrom [] x = (out, calls) ↔ told out calls := by
  constructor
  · intro run
    obtain ⟨found, made, holds⟩ := total
    have same := (sound holds []).symm.trans run
    cases same
    exact holds
  · intro holds
    exact sound holds []

theorem narrowedAll : o.narrowed f .all as = (out, calls) ↔ ReadsAll o f as out calls :=
  runTold (readsAllTotal o f as) readsAllAnswers

theorem narrowedFirst : o.narrowed f .first as = (out, calls) ↔ ReadsFirst o f as out calls :=
  runTold (readsFirstTotal o f as) readsFirstAnswers

end Runs

/-! ## Both cardinalities -/

section Both

variable {o : Outcomes α} {f : TextFilter} {as : List α}

theorem missesReadable {before : List α} (misses : ∀ b ∈ before, o.Misses f b) : ∀ b ∈ before, o.Readable b :=
  fun b inside => (missesIff.mp (misses b inside)).1

theorem throughReadable {before : List α} {a : α} (misses : ∀ b ∈ before, o.Misses f b) (fits : o.fits f a = true) :
    ∀ b ∈ before ++ [a], o.Readable b := by
  obtain ⟨text, read, _⟩ := fitsReadable fits
  exact List.forall_mem_append.mpr ⟨missesReadable misses, by simpa using ⟨text, read⟩⟩

theorem frontRead {front : List α} {out : Except ResolveError (Scope α)} {calls : List (Call α)} (part : front <+: as)
    (readable : ∀ b ∈ front, o.Readable b) (reads : ReadsAll o f as out calls) : front.map .text <+: calls := by
  cases reads with
  | ends _ => exact part.map _
  | @fails before a after e _ fails =>
    rcases List.prefix_or_prefix_of_prefix part (upToMember before a after) with less | more
    · exact less.map _
    · obtain ⟨text, read⟩ := readable a (more.subset (by simp))
      cases fails.symm.trans read

theorem fewerRead {out last : Except ResolveError (Scope α)} {calls made : List (Call α)}
    (first : ReadsFirst o f as out made) (all : ReadsAll o f as last calls) : made <+: calls := by
  cases first with
  | @finds before a after misses fits => exact frontRead (upToMember before a after) (throughReadable misses fits) all
  | ends misses => exact frontRead List.prefix_rfl (missesReadable misses) all
  | @fails before a after e misses fails =>
    have same := (readsAllAnswers all).unique (readsAllAnswers (.fails (missesReadable misses) fails))
    exact same.2 ▸ List.prefix_rfl

theorem firstOfAll {ms : List α} {calls : List (Call α)} (reads : ReadsAll o f as (.ok (.many ms)) calls) :
    ∃ made, ReadsFirst o f as (ms.head?.elim (.error (.noMatch f)) fun a => .ok (.one a)) made := by
  cases reads with
  | ends readable =>
    have missed {b : α} (inside : b ∈ as) (rejects : ¬ o.fits f b = true) : o.Misses f b :=
      missesIff.mpr ⟨readable b inside, Bool.not_eq_true _ ▸ rejects⟩
    cases kept : as.filter (o.fits f) with
    | nil => exact ⟨_, .ends fun a inside => missed inside (List.filter_eq_nil_iff.mp kept a inside)⟩
    | cons a others =>
      obtain ⟨before, after, rfl, rejects, fits, _⟩ := List.filter_eq_cons_iff.mp kept
      exact ⟨_, .finds (fun b inside => missed (List.mem_append_left _ inside) (rejects b inside)) fits⟩

theorem allOfFirst {before : List α} {a : α} (after : List α) (misses : ∀ b ∈ before, o.Misses f b)
    (fits : o.fits f a = true) :
    (∃ ms calls, ReadsAll o f (before ++ a :: after) (.ok (.many (a :: ms))) calls) ∨
      ∃ b ∈ after, ∃ e calls, o.text b = .error e ∧ ReadsAll o f (before ++ a :: after) (.error (.driver e)) calls := by
  have front := throughReadable misses fits
  have split (rest : List α) : before ++ a :: rest = (before ++ [a]) ++ rest := by simp
  rcases firstWithout o.Readable after with all | ⟨middle, b, rest, rfl, between, stops⟩
  · have none : before.filter (o.fits f) = [] :=
      List.filter_eq_nil_iff.mpr fun b inside => by simp [(missesIff.mp (misses b inside)).2]
    have reads := ReadsAll.ends (f := f) (List.forall_mem_append.mpr ⟨front, all⟩)
    rw [← split, List.filter_append, none, List.nil_append, List.filter_cons_of_pos fits] at reads
    exact .inl ⟨_, _, reads⟩
  · obtain ⟨e, fails⟩ := unreadable stops
    have reads : ReadsAll o f (before ++ [a] ++ middle ++ b :: rest) (.error (.driver e)) _ :=
      .fails (List.forall_mem_append.mpr ⟨front, between⟩) fails
    rw [List.append_assoc, ← split] at reads
    exact .inr ⟨b, by simp, e, _, fails, reads⟩

theorem allFails (f : TextFilter) {b : α} {e : DriverError} (inside : b ∈ as) (fails : o.text b = .error e) :
    ∃ cause calls, ReadsAll o f as (.error (.driver cause)) calls := by
  obtain ⟨out, calls, reads⟩ := readsAllTotal o f as
  cases reads with
  | ends readable =>
    obtain ⟨text, read⟩ := readable b inside
    cases fails.symm.trans read
  | fails readable stops => exact ⟨_, _, .fails readable stops⟩

theorem narrowedEnds {c : Cardinality} {out : Except ResolveError (Scope α)} :
    (o.narrowed f c as).1 = out ↔ ∃ calls, o.narrowed f c as = (out, calls) :=
  ⟨fun same => ⟨_, Prod.ext same rfl⟩, fun ⟨_, same⟩ => congrArg Prod.fst same⟩

end Both

/- A filter for the first element asks no more than one for all of them, and finds the first of what that one keeps. It
may succeed where the other fails, with the same element. -/
theorem textFiltersAgree (o : Outcomes α) (f : TextFilter) (as : List α) :
    (∀ out calls, o.narrowed f .all as = (out, calls) ↔ ReadsAll o f as out calls) ∧
    (∀ out calls, o.narrowed f .first as = (out, calls) ↔ ReadsFirst o f as out calls) ∧
    (o.narrowed f .first as).2 <+: (o.narrowed f .all as).2 ∧
    (∀ ms, (o.narrowed f .all as).1 = .ok (.many ms) →
      (o.narrowed f .first as).1 = ms.head?.elim (.error (.noMatch f)) fun a => .ok (.one a)) ∧
    ∀ a, (o.narrowed f .first as).1 = .ok (.one a) →
      ((∃ ms, (o.narrowed f .all as).1 = .ok (.many (a :: ms))) ∨
        ∃ b ∈ as, ∃ e, o.text b = .error e ∧ (o.narrowed f .all as).1 = .error (.driver e)) ∧
      ∀ b e more, o.text b = .error e → (o.narrowed f .first (as ++ b :: more)).1 = .ok (.one a) ∧
        ∃ cause, (o.narrowed f .all (as ++ b :: more)).1 = .error (.driver cause) := by
  refine ⟨fun _ _ => narrowedAll, fun _ _ => narrowedFirst, fewerRead (narrowedFirst.mp rfl) (narrowedAll.mp rfl),
    fun ms same => ?_, fun a same => ?_⟩
  · obtain ⟨calls, run⟩ := narrowedEnds.mp same
    obtain ⟨made, reads⟩ := firstOfAll (narrowedAll.mp run)
    exact narrowedEnds.mpr ⟨made, narrowedFirst.mpr reads⟩
  · obtain ⟨made, run⟩ := narrowedEnds.mp same
    cases narrowedFirst.mp run with
    | @finds before a after misses fits =>
      refine ⟨?_, fun b e more fails => ?_⟩
      · rcases allOfFirst after misses fits with ⟨ms, calls, reads⟩ | ⟨b, inside, e, calls, fails, reads⟩
        · exact .inl ⟨ms, narrowedEnds.mpr ⟨calls, narrowedAll.mpr reads⟩⟩
        · exact .inr ⟨b, by simp [inside], e, fails, narrowedEnds.mpr ⟨calls, narrowedAll.mpr reads⟩⟩
      · have inside : b ∈ before ++ a :: after ++ b :: more := by simp
        obtain ⟨cause, calls, reads⟩ := allFails f inside fails
        refine ⟨?_, cause, narrowedEnds.mpr ⟨calls, narrowedAll.mpr reads⟩⟩
        rw [List.append_assoc, List.cons_append]
        exact narrowedEnds.mpr ⟨_, narrowedFirst.mpr (.finds misses fits)⟩

def goneOutcomes : Outcomes Nat where
  root _ := .ok 0
  first _ _ := .ok 0
  all _ _ := .ok []
  text a := if a = 4 then .error (.staleElement "gone") else .ok (if a % 2 = 1 then "odd" else "even")
  script _ := .ok (.many [])
  delay _ _ _ := 0

theorem textFiltersAgreeGone :
    ReadsFirst goneOutcomes (.equals "odd") [2, 3, 5] (.ok (.one 3)) [.text 2, .text 3] ∧
    ReadsAll goneOutcomes (.equals "odd") [2, 3, 5] (.ok (.many [3, 5])) [.text 2, .text 3, .text 5] ∧
    [Call.text 2, .text 3] <+: [Call.text 2, .text 3, .text 5] ∧
    (goneOutcomes.narrowed (.equals "even") .all [3, 5]).1 = .ok (.many []) ∧
    (goneOutcomes.narrowed (.equals "even") .first [3, 5]).1 = .error (.noMatch (.equals "even")) ∧
    goneOutcomes.text 4 = .error (.staleElement "gone") ∧
    (goneOutcomes.narrowed (.equals "odd") .first [2, 3, 5, 4, 7]).1 = .ok (.one 3) ∧
    ∃ cause, (goneOutcomes.narrowed (.equals "odd") .all [2, 3, 5, 4, 7]).1 = .error (.driver cause) := by
  have first : goneOutcomes.narrowed (.equals "odd") .first [2, 3, 5] = (.ok (.one 3), [.text 2, .text 3]) := rfl
  have all : goneOutcomes.narrowed (.equals "odd") .all [2, 3, 5] =
      (.ok (.many [3, 5]), [.text 2, .text 3, .text 5]) := rfl
  have none : (goneOutcomes.narrowed (.equals "even") .all [3, 5]).1 = .ok (.many []) := rfl
  have gone : goneOutcomes.text 4 = .error (.staleElement "gone") := rfl
  obtain ⟨told, toldFirst, fewer, _, more⟩ := textFiltersAgree goneOutcomes (.equals "odd") [2, 3, 5]
  obtain ⟨_, _, _, empty, _⟩ := textFiltersAgree goneOutcomes (.equals "even") [3, 5]
  rw [first, all] at fewer
  have behind := (more 3 (congrArg Prod.fst first)).2 4 (.staleElement "gone") [7] gone
  exact ⟨(toldFirst _ _).mp first, (told _ _).mp all, fewer, none, empty [] none, gone, behind⟩

end LocatorPath
