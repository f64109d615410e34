import Mathlib.Data.List.Basic
import LocatorPath.Proofs.Resolve.Foresight

/-! Which steps may narrow. A modifier on an alias is refused where the definition of the alias is no collection, and
one on `this` where there is just one element. The two tests differ: each element of a list may lead to one more by a
definition that is no collection, and `this` may narrow the list of those. -/
namespace LocatorPath

variable {σ α : Type}

inductive Resolver.Passes (r : Resolver (StateM σ) α) :
    Option Definition → Scope α → σ → List Step → Option Definition → Scope α → σ → Prop
  | here (current scope t) : r.Passes current scope t [] current scope t
  | step {current scope t s next found between steps last kept later}
      (first : endOf (r.step current scope s) t = (.ok (next, found), between))
      (rest : r.Passes next found between steps last kept later) :
      r.Passes current scope t (s :: steps) last kept later

structure Resolver.Reached (r : Resolver (StateM σ) α) (path : String) (start : σ) (before : List Step) (s : Step)
    (after : List Step) (current : Option Definition) (scope : Scope α) (t : σ) : Prop where
  parsed : parse path = .ok (before ++ s :: after)
  passed : ∃ root rooted, endOf (r.driver.findRoot r.options.root.locator) start = (.ok root, rooted) ∧
    r.Passes none (.one root) rooted before current scope t

def Resolver.Refuses (r : Resolver (StateM σ) α) (current : Option Definition) (scope : Scope α) (s : Step) (t : σ) :
    Prop :=
  ∃ step reason, (endOf (r.step current scope s) t).1 = .error (.invalidModifier step reason)

def Step.KeepsMany (s : Step) : Prop := ∀ modifier, s.modifier = some modifier → modifier.amount = .many

def Definition.Spreads (d : Definition) : Prop := d.isCollection = true ∨ d.selector.strategy = .js

structure Registry.Opens (r : Registry) (current : Option Definition) (s : Step) : Prop where
  source : ∃ name d, s.target = .named name ∧ r.definitionOf current name = .ok d ∧ d.Spreads
  keeps : s.KeepsMany

inductive Registry.Goes (r : Registry) : Option Definition → Step → Option Definition → Prop
  | stays (current modifier) : r.Goes current ⟨.this, modifier⟩ current
  | finds {current name d} (found : r.definitionOf current name = .ok d) (modifier) :
      r.Goes current ⟨.named name, modifier⟩ (some d)

inductive Registry.Lists (r : Registry) : Option Definition → List Step → Prop
  | opens {current s rest} (here : r.Opens current s) (keep : ∀ t ∈ rest, t.KeepsMany) : r.Lists current (s :: rest)
  | later {current s next rest} (goes : r.Goes current s next) (there : r.Lists next rest) :
      r.Lists current (s :: rest)

section Definitions

variable {r : Registry} {current next : Option Definition} {s : Step} {steps : List Step}

theorem Registry.Goes.last (goes : r.Goes current s next) (rest : List Step) :
    (r.met current (s :: rest)).getLast?.or current = (r.met next rest).getLast?.or next := by
  cases goes with
  | stays => rfl
  | finds found modifier =>
    simp only [Registry.met, found, List.getLast?_cons]
    cases (r.met _ rest).getLast? <;> rfl

theorem Registry.Goes.met (goes : r.Goes current s next) (rest : List Step) :
    r.met next rest ⊆ r.met current (s :: rest) := by
  cases goes with
  | stays => exact List.Subset.refl _
  | finds found modifier =>
    simp only [Registry.met, found]
    exact List.subset_cons_self _ _

theorem Registry.Lists.source (lists : r.Lists current steps) : ∃ d ∈ r.met current steps, d.Spreads := by
  induction lists with
  | @opens current s rest here keep =>
    obtain ⟨name, d, target, found, spreads⟩ := here.source
    refine ⟨d, ?_, spreads⟩
    rw [Registry.met, target]
    simp only [found]
    exact List.mem_cons_self
  | later goes there ih =>
    obtain ⟨d, member, spreads⟩ := ih
    exact ⟨d, goes.met _ member, spreads⟩

end Definitions

section Steps

variable (r : Resolver (StateM σ) α) {current : Option Definition} {scope : Scope α} {s : Step} {t : σ}

theorem manyAmount (scope : Scope α) : scope.isMany = true ↔ scope.amount = .many := by
  cases scope <;> simp

theorem materializeSpreads (d : Definition) (scope : Scope α) :
    Ends (r.materialize d scope) (fun found => found.isMany = true → scope.isMany = true ∨ d.Spreads)
      fun _ => True := by
  by_cases spreads : d.Spreads
  · exact (Ends.any _).weaken (fun _ _ _ => .inr spreads) fun _ bad => bad
  · obtain ⟨single, finds⟩ := not_or.mp spreads
    have foretells : d.Foretells := fun script => absurd script finds
    refine (materializeEnds r foretells scope).weaken (fun found kept many => .inl ?_) fun _ bad => bad
    rw [manyAmount] at many ⊢
    simpa [Definition.amount, single, many] using kept.symm

theorem plainKeeps (target : Target) : (⟨target, none⟩ : Step).KeepsMany := nofun

theorem narrowedKeeps {as : List α} {m : Modifier} {found : Scope α} (narrowed : Narrowed as m found)
    (many : found.isMany = true) (target : Target) : (⟨target, some m⟩ : Step).KeepsMany := by
  rintro _ ⟨⟩
  exact narrowed.amount.symm.trans ((manyAmount found).mp many)

theorem narrowingEnds (as : List α) (m : Modifier) :
    Ends (applyModifier r.driver as m) (Narrowed as m) fun _ => True :=
  (applyModifierEnds r.driver as m).anyhow

theorem stepGoes (current : Option Definition) (scope : Scope α) (s : Step) :
    Ends (r.step current scope s)
      (fun p => r.registry.Goes current s p.1 ∧
        (p.2.isMany = true → scope.isMany = true ∧ s.KeepsMany ∨ r.registry.Opens current s)) fun _ => True := by
  obtain ⟨target, modifier⟩ := s
  cases target with
  | this =>
    cases modifier with
    | none => exact .pure ⟨.stays current none, fun many => .inl ⟨many, plainKeeps _⟩⟩
    | some m =>
      cases scope with
      | one a => exact .throw trivial
      | many as =>
        refine (narrowingEnds r as m).bind fun found narrowed => .pure ⟨.stays current _, fun many => .inl ⟨rfl, ?_⟩⟩
        exact narrowedKeeps narrowed many .this
  | named name =>
    simp only [Resolver.step, lookupIsDefinitionOf]
    cases looked : r.registry.definitionOf current name with
    | error e => exact .throw trivial
    | ok d =>
      have made := (materializeSpreads r d scope).driver.anyhow
      cases modifier with
      | none =>
        refine made.bind fun found grown => .pure ⟨.finds looked none, fun many => ?_⟩
        rcases grown many with before | spreads
        · exact .inl ⟨before, plainKeeps _⟩
        · exact .inr ⟨⟨name, d, rfl, looked, spreads⟩, plainKeeps _⟩
      | some m =>
        dsimp only
        split
        · exact .throw trivial
        · next allowed =>
          have several : d.isCollection = true := by simpa using allowed
          refine made.bind fun found _ => (narrowingEnds r found.toList m).bind fun kept narrowed =>
            .pure ⟨.finds looked _, fun many => .inr ?_⟩
          exact ⟨⟨name, d, rfl, looked, .inl several⟩, narrowedKeeps narrowed many _⟩

theorem passEnds (current : Option Definition) (scope : Scope α) (steps : List Step) :
    Ends (r.pass current scope steps) (fun p => p.1 = (r.registry.met current steps).getLast?.or current)
      fun _ => True := by
  induction steps generalizing current scope with
  | nil => exact .pure rfl
  | cons s rest ih =>
    rw [passStep]
    refine (stepGoes r current scope s).bind fun p good => ?_
    exact (ih p.1 p.2).weaken (fun _ last => last.trans (good.1.last rest).symm) fun _ bad => bad

theorem refusesForeseen {modifier : Modifier} (narrows : s.modifier = some modifier) :
    r.Refuses current scope s t ↔
      ∃ step reason, r.registry.foreseeStep current scope.amount s = .error (.invalidModifier step reason) := by
  cases foreseen : r.registry.foreseeStep current scope.amount s with
  | error e =>
    have stops : (endOf (r.step current scope s) t).1 = .error e := by
      rw [stepStops r foreseen]
      rfl
    simp [Resolver.Refuses, stops]
  | ok p =>
    have foretells : ∀ d ∈ r.registry.met current [s], d.Foretells := by
      intro d member
      obtain ⟨target, _⟩ := s
      cases narrows
      cases target with
      | this => cases member
      | named name =>
        simp only [Registry.foreseeStep] at foreseen
        simp only [Registry.met] at member
        cases looked : r.registry.definitionOf current name with
        | error e =>
          rw [looked] at member
          cases member
        | ok found =>
          simp only [looked, List.mem_singleton] at foreseen member
          subst member
          split at foreseen
          · next several => exact fun _ => several
          · cases foreseen
    refine iff_of_false ?_ (by simp)
    rintro ⟨step, reason, fails⟩
    have bad := (stepEnds r foretells foreseen).error (Prod.ext fails rfl)
    cases bad

end Steps

section Ways

variable {r : Resolver (StateM σ) α} {current last : Option Definition} {scope kept : Scope α} {steps : List Step}
  {t later : σ}

theorem passesRun (passes : r.Passes current scope t steps last kept later) :
    endOf (r.pass current scope steps) t = (.ok (last, kept), later) := by
  induction passes with
  | here => rfl
  | step first _ ih =>
    rw [passStep, endOfBind, first]
    exact ih

theorem passesWalk (passes : r.Passes current scope t steps last kept later) (rest : List Step) :
    endOf (r.walk current scope (steps ++ rest)) t = endOf (r.walk last kept rest) later := by
  rw [walkAfter, endOfBind, passesRun passes]

theorem passesLast (passes : r.Passes current scope t steps last kept later) :
    last = (r.registry.met current steps).getLast?.or current :=
  (passEnds r current scope steps).ok (passesRun passes)

theorem passesLists (passes : r.Passes current scope t steps last kept later) (many : kept.isMany = true) :
    scope.isMany = true ∧ (∀ s ∈ steps, s.KeepsMany) ∨ r.registry.Lists current steps := by
  induction passes with
  | here => exact .inl ⟨many, List.forall_mem_nil _⟩
  | step first _ ih =>
    obtain ⟨goes, comes⟩ := (stepGoes r _ _ _).ok first
    rcases ih many with ⟨between, keep⟩ | lists
    · rcases comes between with ⟨before, here⟩ | opens
      · exact .inl ⟨before, List.forall_mem_cons.mpr ⟨here, keep⟩⟩
      · exact .inr (.opens opens keep)
    · exact .inr (.later goes lists)

variable {path : String} {before after : List Step} {s : Step} {start : σ}

theorem reachedRun (reached : r.Reached path start before s after current scope t) :
    endOf (r.resolve path) start = endOf (r.walk current scope (s :: after)) t := by
  obtain ⟨parsed, root, rooted, found, passed⟩ := reached
  unfold Resolver.resolve
  rw [parsed]
  dsimp only
  rw [endOfBind, endOfDriver, found]
  exact passesWalk passed (s :: after)

theorem refusedRun (reached : r.Reached path start before s after current scope t) {modifier : Modifier}
    (narrows : s.modifier = some modifier) (refuses : r.Refuses current scope s t) :
    ∃ step reason, endOf (r.resolve path) start = (.error (.invalidModifier step reason), t) := by
  obtain ⟨step, reason, foreseen⟩ := (refusesForeseen r narrows).mp refuses
  refine ⟨step, reason, ?_⟩
  rw [reachedRun reached, walkStep, stepStops r foreseen]
  rfl

/- Where a resolution gets to a step with a modifier, an alias has it refused just if its definition is no collection,
and `this` just if there is one element. A list that `this` may narrow comes from an earlier definition. -/
theorem modifiersChecked {modifier : Modifier} (reached : r.Reached path start before s after current scope t)
    (narrows : s.modifier = some modifier) :
    current = (r.registry.met none before).getLast? ∧
      (∀ name d, s.target = .named name → r.registry.definitionOf current name = .ok d →
        (r.Refuses current scope s t ↔ d.isCollection = false)) ∧
      (s.target = .this → (r.Refuses current scope s t ↔ scope.isMany = false) ∧
        (scope.isMany = true → r.registry.Lists none before) ∧
        ((∀ d ∈ r.registry.met none before, ¬ d.Spreads) → r.Refuses current scope s t)) ∧
      (r.Refuses current scope s t →
        ∃ step reason, endOf (r.resolve path) start = (.error (.invalidModifier step reason), t)) := by
  obtain ⟨root, rooted, found, passed⟩ := reached.passed
  have foreseen : r.Refuses current scope s t ↔ _ := refusesForeseen r narrows
  refine ⟨(passesLast passed).trans Option.or_none, ?_, ?_, refusedRun reached narrows⟩
  · intro name d target looked
    rw [foreseen]
    simp only [Registry.foreseeStep, target, looked, narrows]
    cases d.isCollection <;> simp
  · intro target
    have single : r.Refuses current scope s t ↔ scope.isMany = false := by
      rw [foreseen]
      simp only [Registry.foreseeStep, target, narrows]
      cases scope <;> simp
    have lists (many : scope.isMany = true) : r.registry.Lists none before := by
      refine (passesLists passed many).resolve_left ?_
      rintro ⟨held, _⟩
      cases held
    refine ⟨single, lists, fun plain => single.mpr ?_⟩
    cases many : scope.isMany with
    | false => rfl
    | true =>
      obtain ⟨d, member, spreads⟩ := (lists many).source
      exact absurd spreads (plain d member)

end Ways

def firstTitle : Step := ⟨.this, some (.index (.exact (.nth 1)))⟩

theorem firstTitleReached :
    shelfResolver.Reached "item > title > #1 of this" [] [.named "item", .named "title"] firstTitle []
      (some (.element "title" (.css "b"))) (.many [10, 20, 30]) [.findRoot (.find .css "html"),
        .find .all 0 (.find .css "li"), .find .first 1 (.find .css "b"), .find .first 2 (.find .css "b"),
        .find .first 3 (.find .css "b")] where
  parsed := by decide +kernel
  passed := ⟨0, _, rfl, .step rfl (.step rfl (.here _ _ _))⟩

theorem modifiersCheckedShelf :
    firstTitle.modifier = some (.index (.exact (.nth 1))) ∧ shelf.Lists none [.named "item", .named "title"] ∧
      ∃ calls, ¬ shelfResolver.Refuses (some (.element "title" (.css "b"))) (.many [10, 20, 30]) firstTitle calls := by
  have checked := (modifiersChecked firstTitleReached rfl).2.2.1 rfl
  exact ⟨rfl, checked.2.1 rfl, _, checked.1.not.mpr (by decide)⟩

/- The titles are a list, though each of them is found by a definition that is no collection. -/
theorem titlesNarrowed :
    (∃ calls, shelfResolver.Reached "item > title > #1 of this" [] [.named "item", .named "title"] firstTitle []
      (some (.element "title" (.css "b"))) (.many [10, 20, 30]) calls) ∧
      (Definition.element "title" (.css "b")).isCollection = false ∧
      (endOf (shelfResolver.resolve "item > title > #1 of this") []).1 = .ok (.one 10) :=
  ⟨⟨_, firstTitleReached⟩, rfl, by decide +kernel⟩

def cell : Definition := .element "cell" ⟨.js, "return row.cells"⟩

def rowResolver : Resolver (Recorder Nat) Nat :=
  Outcomes.resolver ⟨fun _ => .ok 0, fun a _ => .ok a, fun _ _ => .ok [], fun _ => .ok "",
    fun _ => .ok (.many [4, 5]), fun _ _ _ => 0⟩ {definitions := [cell]} (.css "html") .sequential

/- A script makes a list of one element, for a definition that is no collection. -/
theorem cellsNarrowed :
    (∃ calls, rowResolver.Reached "cell > #1 of this" [] [.named "cell"] firstTitle [] (some cell) (.many [4, 5])
      calls) ∧
      cell.isCollection = false ∧ (endOf (rowResolver.resolve "cell > #1 of this") []).1 = .ok (.one 4) := by
  refine ⟨⟨[.findRoot (.find .css "html"), .script "return row.cells"], ?_⟩, rfl, by decide +kernel⟩
  exact { parsed := by decide +kernel, passed := ⟨0, _, rfl, .step rfl (.here _ _ _)⟩ }

end LocatorPath
