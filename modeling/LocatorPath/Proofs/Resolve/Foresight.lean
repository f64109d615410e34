import LocatorPath.Proofs.Resolve.Outcome
import LocatorPath.Proofs.Resolve.Run

/-! What the definition tree alone says about a path: whether it can lead to one element or to a list
of them, and at which step it cannot be gone at all. No page is looked at for it, and whatever the
page, a resolution that gets so far keeps to it. -/
namespace LocatorPath

variable {σ α : Type}

inductive Amount where
  | one
  | many
  deriving DecidableEq, Repr

def Scope.amount : Scope α → Amount
  | one _ => .one
  | many _ => .many

@[simp] theorem oneAmount (a : α) : (Scope.one a).amount = .one := rfl

@[simp] theorem severalAmount (as : List α) : (Scope.many as).amount = .many := rfl

def Modifier.amount : Modifier → Amount
  | index (.exact _) => .one
  | index _ => .many
  | text _ .first => .one
  | text _ .all => .many

def Definition.amount (d : Definition) (before : Amount) : Amount :=
  if d.isCollection then .many else before

@[simp] theorem amountSeveral (d : Definition) : d.amount .many = .many := ite_self _

inductive Foresight where
  | ends (amount : Amount)
  | stops (passed : Nat) (e : ResolveError)
  deriving DecidableEq, Repr

def Foresight.later : Foresight → Foresight
  | ends amount => ends amount
  | stops passed e => stops (passed + 1) e

def ResolveError.isForeseeable : ResolveError → Bool
  | aliasNotFound _ | invalidModifier _ _ => true
  | _ => false

namespace Registry

def definitionOf (r : Registry) (current : Option Definition) (name : String) :
    Except LookupError Definition :=
  match current with
  | none => r.lookup name
  | some d =>
    match d.children? with
    | some children => children.lookup name
    | none => .error ⟨name, []⟩

def foreseeStep (r : Registry) (current : Option Definition) (amount : Amount) (s : Step) :
    Except ResolveError (Option Definition × Amount) :=
  match s.target with
  | .this =>
    match s.modifier, amount with
    | none, amount => .ok (current, amount)
    | some modifier, .many => .ok (current, modifier.amount)
    | some _, .one => .error (.invalidModifier s.render .thisNotCollection)
  | .named name =>
    match r.definitionOf current name, s.modifier with
    | .error e, _ => .error (.aliasNotFound e)
    | .ok d, none => .ok (some d, d.amount amount)
    | .ok d, some modifier =>
      if d.isCollection then .ok (some d, modifier.amount)
      else .error (.invalidModifier s.render (.notCollection name))

def foresee (r : Registry) : Option Definition → Amount → List Step → Foresight
  | _, amount, [] => .ends amount
  | current, amount, s :: rest =>
    match r.foreseeStep current amount s with
    | .error e => .stops 0 e
    | .ok (next, amount) => (r.foresee next amount rest).later

def met (r : Registry) : Option Definition → List Step → List Definition
  | _, [] => []
  | current, s :: rest =>
    match s.target with
    | .this => r.met current rest
    | .named name =>
      match r.definitionOf current name with
      | .error _ => []
      | .ok d => d :: r.met (some d) rest

theorem metNext {r : Registry} {current next : Option Definition} {before after : Amount} {s : Step}
    (step : r.foreseeStep current before s = .ok (next, after)) (rest : List Step) :
    r.met next rest ⊆ r.met current (s :: rest) := by
  obtain ⟨target, modifier⟩ := s
  cases target with
  | this =>
    have same : next = current := by
      cases modifier with
      | none => cases step; rfl
      | some m => cases before <;> cases step; rfl
    rw [same]
    exact List.Subset.refl _
  | named name =>
    simp only [foreseeStep] at step
    cases found : r.definitionOf current name with
    | error e => simp [found] at step
    | ok d =>
      have same : next = some d := by
        rw [found] at step
        cases modifier with
        | none => cases step; rfl
        | some m =>
          dsimp only at step
          split at step <;> cases step
          rfl
      simp only [met, found, same]
      exact List.subset_cons_self d _

end Registry

@[simp] theorem lookupIsDefinitionOf {m : Type → Type} (r : Resolver m α) (current : Option Definition)
    (name : String) : r.lookup current name = r.registry.definitionOf current name := rfl

section Selecting

theorem keepPlacesSublist (keeps : Nat → Bool) (place : Nat) (as : List α) :
    (keepPlaces keeps place as).Sublist as := by
  induction as generalizing place with
  | nil => exact List.Sublist.refl _
  | cons a rest ih =>
    rw [keepPlaces]
    split
    · exact (ih (place + 1)).cons_cons a
    · exact (ih (place + 1)).cons a

theorem memberAmong {as : List α} {p : Position} {a : α} (found : p.member? as = some a) : a ∈ as := by
  cases p with
  | first => exact List.mem_of_head? found
  | last => exact List.mem_of_getLast? found
  | nth n =>
    rw [Position.member?] at found
    split at found
    · contradiction
    · exact List.mem_of_getElem? found

structure Narrowed (as : List α) (modifier : Modifier) (found : Scope α) : Prop where
  amount : found.amount = modifier.amount
  sublist : found.toList.Sublist as

theorem selectIndexNarrows {as : List α} {spec : IndexSpec} {found : Scope α}
    (selected : selectIndex as spec = .ok found) : Narrowed as (.index spec) found := by
  cases spec with
  | exact p =>
    rw [selectIndex] at selected
    split at selected <;> cases selected
    exact ⟨rfl, List.singleton_sublist.mpr (memberAmong ‹_›)⟩
  | between low high => cases selected; exact ⟨rfl, keepPlacesSublist _ 1 as⟩
  | above bound => cases selected; exact ⟨rfl, keepPlacesSublist _ 1 as⟩
  | below bound => cases selected; exact ⟨rfl, keepPlacesSublist _ 1 as⟩

theorem selectIndexFails {as : List α} {spec : IndexSpec} {e : ResolveError}
    (failed : selectIndex as spec = .error e) : e.isForeseeable = false := by
  cases spec with
  | exact p =>
    rw [selectIndex] at failed
    split at failed <;> cases failed
    rfl
  | between low high => cases failed
  | above bound => cases failed
  | below bound => cases failed

variable (d : Driver (StateM σ) α)

theorem textEnds (a : α) :
    Ends (fromDriver (d.text a)) (fun _ => True) fun e => e.isForeseeable = false := by
  refine (Ends.any (d.text a)).driver.weaken (fun _ good => good) ?_
  rintro _ ⟨cause, _, rfl⟩
  rfl

theorem firstWithTextEnds (f : TextFilter) (as : List α) :
    Ends (firstWithText d f as) (Narrowed as (.text f .first)) fun e => e.isForeseeable = false := by
  induction as with
  | nil => exact .throw rfl
  | cons a rest ih =>
    refine (textEnds d a).bind fun text _ => ?_
    split
    · exact .pure ⟨rfl, List.singleton_sublist.mpr List.mem_cons_self⟩
    · exact ih.weaken (fun _ good => ⟨good.amount, good.sublist.cons a⟩) fun _ bad => bad

theorem allWithTextEnds (f : TextFilter) (as : List α) :
    Ends (allWithText d f as) (·.Sublist as) fun e => e.isForeseeable = false := by
  induction as with
  | nil => exact .pure (List.Sublist.refl _)
  | cons a rest ih =>
    refine (textEnds d a).bind fun text _ => ih.bind fun others kept => .pure ?_
    split
    · exact kept.cons_cons a
    · exact kept.cons a

theorem applyModifierEnds (as : List α) (modifier : Modifier) :
    Ends (applyModifier d as modifier) (Narrowed as modifier) fun e => e.isForeseeable = false := by
  cases modifier with
  | index spec =>
    constructor
    · intro s found later same
      exact selectIndexNarrows (congrArg Prod.fst same)
    · intro s e later same
      exact selectIndexFails (congrArg Prod.fst same)
  | text f c =>
    cases c with
    | first => exact firstWithTextEnds d f as
    | all => exact (allWithTextEnds d f as).bind fun kept sublist => .pure ⟨rfl, sublist⟩

end Selecting

section Steps

/-- A script answers what it likes, so a definition by a script foretells only a list. -/
def Definition.Foretells (d : Definition) : Prop := d.selector.strategy = .js → d.isCollection = true

theorem scriptStrategy {s : Selector} {source : String} (script : s.locator = .script source) :
    s.strategy = .js := by
  unfold Selector.locator at script
  split at script <;> first | assumption | contradiction

theorem findLocator {s : Selector} (finds : s.strategy ≠ .js) : ∃ how value, s.locator = .find how value := by
  cases l : s.locator with
  | find how value => exact ⟨how, value, rfl⟩
  | script source => exact absurd (scriptStrategy l) finds

def Definition.extent (d : Definition) : Extent := if d.isCollection then .all else .first

variable (r : Resolver (StateM σ) α)

def Resolver.finds (extent : Extent) (as : List α) (l : Locator) :
    ExceptT DriverError (StateM σ) (List (List α)) :=
  match r.options.fanOut with
  | .concurrent => r.driver.findTogether extent as l
  | .sequential => r.driver.findInTurn extent l as

theorem materializeMany {d : Definition} {how : Using} {value : String}
    (l : d.selector.locator = .find how value) (as : List α) : r.materialize d (.many as) =
      r.finds d.extent as (.find how value) >>= fun found => pure (.many found.flatten) := by
  unfold Resolver.materialize Resolver.finds
  rw [l]
  cases r.options.fanOut <;> rfl

theorem materializeEnds {d : Definition} (foretells : d.Foretells) (scope : Scope α) :
    Ends (r.materialize d scope) (fun found => found.amount = d.amount scope.amount) fun _ => True := by
  unfold Definition.amount
  cases l : d.selector.locator with
  | script source =>
    simp only [Resolver.materialize, l, foretells (scriptStrategy l), if_true]
    exact (Ends.any _).bind fun _ _ => .pure rfl
  | find how value =>
    cases scope with
    | one a =>
      simp only [Resolver.materialize, l]
      cases d.isCollection with
      | true => exact (Ends.any _).bind fun _ _ => .pure rfl
      | false => exact (Ends.any _).bind fun _ _ => .pure rfl
    | many as =>
      rw [materializeMany r l]
      refine (Ends.any _).bind fun _ _ => .pure ?_
      split <;> rfl

theorem stepStops {current : Option Definition} {scope : Scope α} {s : Step} {e : ResolveError}
    (foreseen : r.registry.foreseeStep current scope.amount s = .error e) :
    r.step current scope s = throw e := by
  obtain ⟨target, modifier⟩ := s
  cases target with
  | this =>
    cases modifier with
    | none => cases foreseen
    | some modifier =>
      cases scope with
      | one a => cases foreseen; rfl
      | many as => cases foreseen
  | named name =>
    simp only [Registry.foreseeStep] at foreseen
    simp only [Resolver.step, lookupIsDefinitionOf]
    cases found : r.registry.definitionOf current name with
    | error e =>
      rw [found] at foreseen
      cases foreseen
      rfl
    | ok d =>
      rw [found] at foreseen
      cases modifier with
      | none => cases foreseen
      | some modifier =>
        dsimp only at foreseen ⊢
        split at foreseen
        · cases foreseen
        · rename_i single
          cases foreseen
          simp [single]

theorem stepEnds {current next : Option Definition} {scope : Scope α} {s : Step} {amount : Amount}
    {rest : List Step} (foretells : ∀ d ∈ r.registry.met current (s :: rest), d.Foretells)
    (foreseen : r.registry.foreseeStep current scope.amount s = .ok (next, amount)) :
    Ends (r.step current scope s) (fun p => p.1 = next ∧ p.2.amount = amount)
      fun e => e.isForeseeable = false := by
  obtain ⟨target, modifier⟩ := s
  cases target with
  | this =>
    cases modifier with
    | none => cases foreseen; exact .pure ⟨rfl, rfl⟩
    | some modifier =>
      cases scope with
      | one a => cases foreseen
      | many as =>
        cases foreseen
        exact (applyModifierEnds r.driver as modifier).bind fun _ narrowed => .pure ⟨rfl, narrowed.amount⟩
  | named name =>
    simp only [Registry.foreseeStep] at foreseen
    simp only [Registry.met] at foretells
    simp only [Resolver.step, lookupIsDefinitionOf]
    cases found : r.registry.definitionOf current name with
    | error e =>
      rw [found] at foreseen
      cases foreseen
    | ok d =>
      rw [found] at foreseen foretells
      have materialized := (materializeEnds r (foretells d List.mem_cons_self) scope).driver
      have driven : ∀ e, (∃ cause, True ∧ e = ResolveError.driver cause) → e.isForeseeable = false := by
        rintro _ ⟨cause, _, rfl⟩
        rfl
      cases modifier with
      | none =>
        cases foreseen
        exact (materialized.weaken (fun _ good => good) driven).bind fun _ good => .pure ⟨rfl, good⟩
      | some modifier =>
        dsimp only at foreseen ⊢
        split at foreseen <;> cases foreseen
        rename_i several
        rw [several]
        refine (materialized.weaken (fun _ good => good) driven).bind fun found _ => ?_
        exact (applyModifierEnds r.driver _ modifier).bind fun _ narrowed => .pure ⟨rfl, narrowed.amount⟩

end Steps

section Walks

variable (r : Resolver (StateM σ) α)

theorem walkEnds {steps : List Step} {current : Option Definition} {scope : Scope α} {amount : Amount}
    (foretells : ∀ d ∈ r.registry.met current steps, d.Foretells)
    (foreseen : r.registry.foresee current scope.amount steps = .ends amount) :
    Ends (r.walk current scope steps) (fun found => found.amount = amount)
      fun e => e.isForeseeable = false := by
  induction steps generalizing current scope with
  | nil =>
    cases foreseen
    exact .pure rfl
  | cons s rest ih =>
    rw [Registry.foresee] at foreseen
    cases step : r.registry.foreseeStep current scope.amount s with
    | error e => simp [step] at foreseen
    | ok p =>
      obtain ⟨next, between⟩ := p
      rw [walkStep]
      refine (stepEnds r foretells step).bind ?_
      rintro ⟨_, found⟩ ⟨rfl, rfl⟩
      refine ih (fun d met => foretells d (Registry.metNext step rest met)) ?_
      simp only [step] at foreseen
      cases later : r.registry.foresee _ found.amount rest with
      | ends a =>
        rw [later] at foreseen
        exact foreseen
      | stops passed e =>
        rw [later] at foreseen
        cases foreseen

theorem walkPasses {steps : List Step} {current : Option Definition} {scope : Scope α} {passed : Nat}
    {e : ResolveError} (foretells : ∀ d ∈ r.registry.met current steps, d.Foretells)
    (foreseen : r.registry.foresee current scope.amount steps = .stops passed e) :
    r.walk current scope steps = r.walk current scope (steps.take passed) >>= (fun _ => throw e) ∧
      Ends (r.walk current scope (steps.take passed)) (fun _ => True) fun e => e.isForeseeable = false := by
  induction steps generalizing current scope passed with
  | nil => cases foreseen
  | cons s rest ih =>
    rw [Registry.foresee] at foreseen
    cases step : r.registry.foreseeStep current scope.amount s with
    | error e' =>
      simp only [step, Foresight.stops.injEq] at foreseen
      obtain ⟨rfl, rfl⟩ := foreseen
      rw [walkStep, stepStops r step]
      exact ⟨rfl, .pure trivial⟩
    | ok p =>
      obtain ⟨next, between⟩ := p
      simp only [step] at foreseen
      cases later : r.registry.foresee next between rest with
      | ends a =>
        rw [later] at foreseen
        cases foreseen
      | stops before e' =>
        rw [later] at foreseen
        cases foreseen
        have ends := stepEnds r foretells step
        have passes (p : Option Definition × Scope α) (good : p.1 = next ∧ p.2.amount = between) :
            r.walk p.1 p.2 rest = r.walk p.1 p.2 (rest.take before) >>= (fun _ => throw e) ∧
              Ends (r.walk p.1 p.2 (rest.take before)) (fun _ => True) fun e => e.isForeseeable = false := by
          obtain ⟨_, found⟩ := p
          obtain ⟨rfl, rfl⟩ := good
          exact ih (fun d met => foretells d (Registry.metNext step rest met)) later
        rw [List.take_succ_cons, walkStep, walkStep, bind_assoc]
        exact ⟨ends.bindCongr fun p good => (passes p good).1, ends.bind fun p good => (passes p good).2⟩

end Walks

/- Whether a path can lead somewhere, and to how much, is decided by the definition tree: an error
about aliases or modifiers is the foreseen one, and it comes after just the steps before it. -/
theorem resolutionForeseen (r : Resolver (StateM σ) α) (steps : List Step) (scope : Scope α)
    (foretells : ∀ d ∈ r.registry.met none steps, d.Foretells) :
    (∀ s found later, endOf (r.resolveSteps steps scope) s = (.ok found, later) →
      ∃ amount, r.registry.foresee none scope.amount steps = .ends amount ∧
        (found.isMany = true ↔ amount = .many)) ∧
    (∀ s e later, endOf (r.resolveSteps steps scope) s = (.error e, later) → e.isForeseeable = true →
      ∃ passed reached, r.registry.foresee none scope.amount steps = .stops passed e ∧
        endOf (r.resolveSteps (steps.take passed) scope) s = (.ok reached, later)) ∧
    (∀ passed e, r.registry.foresee none scope.amount steps = .stops passed e →
      r.resolveSteps steps scope = r.resolveSteps (steps.take passed) scope >>= fun _ => throw e) := by
  have passes (passed : Nat) (e : ResolveError)
      (foreseen : r.registry.foresee none scope.amount steps = .stops passed e) :=
    walkPasses r foretells foreseen
  refine ⟨fun s found later same => ?_, fun s e later same foreseeable => ?_, fun passed e foreseen =>
    (passes passed e foreseen).1⟩
  · cases foreseen : r.registry.foresee none scope.amount steps with
    | ends amount =>
      have exact := (walkEnds r foretells foreseen).ok same
      refine ⟨amount, rfl, ?_⟩
      cases found <;> simp [← exact]
    | stops passed e =>
      rw [Resolver.resolveSteps, (passes passed e foreseen).1, endOfBind] at same
      split at same <;> cases same
  · cases foreseen : r.registry.foresee none scope.amount steps with
    | ends amount =>
      have other := (walkEnds r foretells foreseen).error same
      simp [foreseeable] at other
    | stops passed cause =>
      obtain ⟨through, ends⟩ := passes passed cause foreseen
      rw [Resolver.resolveSteps, through, endOfBind] at same
      split at same
      · rename_i reached between run
        cases same
        exact ⟨passed, reached, rfl, run⟩
      · rename_i other between run
        cases same
        simp [ends.error run] at foreseeable

def shelfParts : Registry where
  definitions := [.element "title" (.css "b")]

def shelfItem : Definition := .component "item" (.css "li") true shelfParts.definitions

def shelf : Registry where
  definitions := [shelfItem, .element "top" (.css "h1")]

def shelfResolver : Resolver (Recorder Nat) Nat :=
  Outcomes.resolver ⟨fun _ => .ok 0, fun a _ => .ok (10 * a), fun _ _ => .ok [1, 2, 3], fun _ => .ok "",
    fun _ => .ok (.one 2), fun _ _ _ => 0⟩ shelf (.css "html") .sequential

def shelfPath : List Step :=
  [.named "item", ⟨.this, some (.index (.above 1))⟩, .named "title", ⟨.named "top", some (.index (.exact .first))⟩]

theorem resolutionForeseenShelf :
    (∀ d ∈ shelf.met none shelfPath, d.Foretells) ∧
    shelf.foresee none .one shelfPath = .stops 3 (.aliasNotFound ⟨"top", []⟩) ∧
    endOf (shelfResolver.resolveSteps shelfPath (.one 0)) [] =
      (.error (.aliasNotFound ⟨"top", []⟩), [.find .all 0 (.find .css "li"),
        .find .first 2 (.find .css "b"), .find .first 3 (.find .css "b")]) := by
  have met : shelf.met none shelfPath = [shelfItem, .element "title" (.css "b")] := rfl
  have foretells : ∀ d ∈ shelf.met none shelfPath, d.Foretells := by
    simp [met, shelfItem, Definition.Foretells, Definition.selector, Selector.css]
  have foreseen : shelf.foresee none .one shelfPath = .stops 3 (.aliasNotFound ⟨"top", []⟩) := rfl
  refine ⟨foretells, foreseen, ?_⟩
  rw [(resolutionForeseen shelfResolver shelfPath (.one 0) foretells).2.2 _ _ foreseen]
  rfl

end LocatorPath
