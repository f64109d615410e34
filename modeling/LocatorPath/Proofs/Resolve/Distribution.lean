import LocatorPath.Proofs.Path.Pieces
import LocatorPath.Proofs.Resolve.Foresight
import LocatorPath.Proofs.Resolve.Reading

/-! Resolutions from several elements at once. What is found below a list is found below its parts, and a single
element leads where the list of it does. -/
namespace LocatorPath

variable {α β γ δ ε : Type}

def Yields (x : ExceptT ε (Recorder α) β) (b : β) : Prop := ∃ calls, Answers x (.ok b) calls

section Yielding

theorem yieldsPure {b c : β} : Yields (pure b : ExceptT ε (Recorder α) β) c ↔ c = b := by
  constructor
  · rintro ⟨calls, answers⟩
    cases (answers.unique (pureAnswers b)).1
    rfl
  · rintro rfl
    exact ⟨[], pureAnswers c⟩

theorem yieldsThrow {e : ε} {b : β} : ¬Yields (throw e : ExceptT ε (Recorder α) β) b := by
  rintro ⟨calls, answers⟩
  cases (answers.unique (throwAnswers e)).1

theorem yieldsBind {x : ExceptT ε (Recorder α) β} {next : β → ExceptT ε (Recorder α) γ} {c : γ}
    (first : Definite x) (second : ∀ b, Definite (next b)) :
    Yields (x >>= next) c ↔ ∃ b, Yields x b ∧ Yields (next b) c := by
  constructor
  · rintro ⟨calls, answers⟩
    rcases first.split second answers with ⟨b, front, back, one, two, _⟩ | ⟨e, _, failed⟩
    · exact ⟨b, ⟨front, one⟩, back, two⟩
    · cases failed
  · rintro ⟨b, ⟨front, one⟩, back, two⟩
    exact ⟨front ++ back, one.bind two⟩

theorem yieldsUnique {x : ExceptT ε (Recorder α) β} {b c : β} (one : Yields x b) (two : Yields x c) : b = c := by
  obtain ⟨_, first⟩ := one
  obtain ⟨_, second⟩ := two
  exact Except.ok.inj (first.unique second).1

theorem Answers.yields {x : ExceptT ε (Recorder α) β} {out : Except ε β} {calls : List (Call α)}
    (answers : Answers x out calls) {b : β} : Yields x b ↔ out = .ok b := by
  constructor
  · rintro ⟨_, others⟩
    exact (answers.unique others).1
  · rintro rfl
    exact ⟨calls, answers⟩

theorem Answers.yieldsMap {x : ExceptT ε (Recorder α) β} {out : Except ε β} {calls : List (Call α)}
    (answers : Answers x out calls) {f : β → γ} {c : γ} :
    Yields (x >>= fun b => pure (f b)) c ↔ ∃ b, out = .ok b ∧ f b = c := by
  rw [(answers.map f).yields]
  cases out <;> simp [Except.map]

theorem yieldsDriver {x : ExceptT DriverError (Recorder α) β} (definite : Definite x) {b : β} :
    Yields (fromDriver x) b ↔ Yields x b := by
  obtain ⟨out, calls, answers⟩ := definite
  rw [answers.yields, answers.driver.yields]
  cases out <;> simp [Except.mapError]

end Yielding

structure Distributes (f : List β → ExceptT ε (Recorder α) (List γ)) : Prop where
  definite : ∀ as, Definite (f as)
  append : ∀ xs ys ks, Yields (f (xs ++ ys)) ks ↔
    ∃ as bs, Yields (f xs) as ∧ Yields (f ys) bs ∧ ks = as ++ bs

namespace Distributes

variable {f : List β → ExceptT ε (Recorder α) (List γ)} {g : List γ → ExceptT ε (Recorder α) (List δ)}

theorem pure {h : List β → List γ} (joins : ∀ xs ys, h (xs ++ ys) = h xs ++ h ys) :
    Distributes fun as => (Pure.pure (h as) : ExceptT ε (Recorder α) (List γ)) where
  definite as := pureDefinite (h as)
  append xs ys ks := by simp [yieldsPure, joins]

theorem throw (e : ε) : Distributes fun _ : List β => (MonadExcept.throw e : ExceptT ε (Recorder α) (List γ)) where
  definite _ := throwDefinite e
  append xs ys ks := by
    constructor
    · exact fun yields => absurd yields yieldsThrow
    · rintro ⟨as, bs, yields, _⟩
      exact absurd yields yieldsThrow

theorem bind (first : Distributes f) (second : Distributes g) : Distributes fun as => f as >>= g where
  definite as := (first.definite as).bind second.definite
  append xs ys ks := by
    have through (as : List β) (k : List δ) : Yields (f as >>= g) k ↔ ∃ bs, Yields (f as) bs ∧ Yields (g bs) k :=
      yieldsBind (first.definite as) second.definite
    simp only [through]
    constructor
    · rintro ⟨found, one, two⟩
      obtain ⟨as, bs, left, right, rfl⟩ := (first.append xs ys found).mp one
      obtain ⟨cs, ds, later, more, rfl⟩ := (second.append as bs ks).mp two
      exact ⟨cs, ds, ⟨as, left, later⟩, ⟨bs, right, more⟩, rfl⟩
    · rintro ⟨cs, ds, ⟨as, left, later⟩, ⟨bs, right, more⟩, rfl⟩
      exact ⟨as ++ bs, (first.append xs ys _).mpr ⟨as, bs, left, right, rfl⟩,
        (second.append as bs _).mpr ⟨cs, ds, later, more, rfl⟩⟩

theorem driver {f : List β → ExceptT DriverError (Recorder α) (List γ)} (distributes : Distributes f) :
    Distributes fun as => fromDriver (f as) where
  definite as := (distributes.definite as).driver
  append xs ys ks := by simp only [yieldsDriver (distributes.definite _), distributes.append]

end Distributes

theorem forall₂Parts {r : β → γ → Prop} {xs ys : List β} {zs : List γ} :
    List.Forall₂ r (xs ++ ys) zs ↔
      ∃ as bs, List.Forall₂ r xs as ∧ List.Forall₂ r ys bs ∧ zs = as ++ bs := by
  constructor
  · intro each
    induction xs generalizing zs with
    | nil => exact ⟨[], zs, .nil, each, rfl⟩
    | cons x xs ih =>
      cases each with
      | cons one rest =>
        obtain ⟨as, bs, left, right, rfl⟩ := ih rest
        exact ⟨_ :: as, bs, .cons one left, right, rfl⟩
  · rintro ⟨as, bs, left, right, rfl⟩
    exact List.rel_append left right

theorem oneMember {r : β → List γ → Prop} {b : β} {p : List γ → Prop} :
    (∃ founds, List.Forall₂ r [b] founds ∧ p founds.flatten) ↔ ∃ found, r b found ∧ p found := by
  constructor
  · rintro ⟨founds, each, holds⟩
    cases each with
    | cons one none =>
      cases none
      exact ⟨_, one, by simpa using holds⟩
  · rintro ⟨found, one, holds⟩
    exact ⟨[found], .cons one .nil, by simpa using holds⟩

section Parts

variable (o : Outcomes α)

theorem inTurnYields {extent : Extent} {l : Locator} {as : List α} {founds : List (List α)} :
    Yields (o.driver.findInTurn extent l as) founds ↔
      List.Forall₂ (fun a found => o.find extent a l = .ok found) as founds := by
  rw [(findInTurnAnswers o extent l as).yields]
  exact mapMOk

theorem inTurnDistributes (extent : Extent) (l : Locator) : Distributes (o.driver.findInTurn extent l) where
  definite as := ⟨_, _, findInTurnAnswers o extent l as⟩
  append xs ys founds := by simp only [inTurnYields, forall₂Parts]

theorem allWithTextYields {f : TextFilter} {as ks : List α} :
    Yields (allWithText o.driver f as) ks ↔ (∀ a ∈ as, o.Readable a) ∧ ks = as.filter (o.fits f) := by
  rcases firstWithout o.Readable as with readable | ⟨before, a, after, rfl, front, stops⟩
  · rw [(allRead readable).yields, Except.ok.injEq, eq_comm]
    exact (and_iff_right readable).symm
  · obtain ⟨e, fails⟩ := unreadable stops
    rw [(allStopped front fails).yields]
    exact iff_of_false nofun fun kept => stops (kept.1 a (by simp))

theorem allWithTextDistributes (f : TextFilter) : Distributes (allWithText o.driver f) where
  definite := allWithTextDefinite o f
  append xs ys ks := by
    simp only [allWithTextYields, List.forall_mem_append, List.filter_append]
    constructor
    · rintro ⟨⟨left, right⟩, rfl⟩
      exact ⟨_, _, ⟨left, rfl⟩, ⟨right, rfl⟩, rfl⟩
    · rintro ⟨_, _, ⟨left, rfl⟩, ⟨right, rfl⟩, rfl⟩
      exact ⟨⟨left, right⟩, rfl⟩

end Parts

theorem findFirstOk {o : Outcomes α} {a : α} {l : Locator} {found : List α} :
    o.find .first a l = .ok found ↔ ∃ b, o.first a l = .ok b ∧ found = [b] := by
  rw [findFirstMap]
  cases o.first a l <;> simp [Except.map, eq_comm]

section Steps

variable (o : Outcomes α) (registry : Registry) (root : Selector)

/- What a definition by a selector stands for depends on the elements that are held. Whether they are held as a
list decides only how one element is given back. -/
theorem materializeYields {d : Definition} (finds : d.selector.strategy ≠ .js) {scope found : Scope α} :
    Yields ((o.resolver registry root .sequential).materialize d scope) found ↔
      ∃ founds, List.Forall₂ (fun a found => o.find d.extent a d.selector.locator = .ok found) scope.toList founds ∧
        found.toList = founds.flatten ∧ found.amount = d.amount scope.amount := by
  obtain ⟨how, value, l⟩ := findLocator finds
  cases scope with
  | many as =>
    have answers := findInTurnAnswers o d.extent (.find how value) as
    rw [materializeMany _ l, l]
    refine answers.yieldsMap.trans (exists_congr fun founds => and_congr mapMOk ?_)
    cases found <;> simp [eq_comm (b := List.flatten founds)]
  | one a =>
    refine Iff.trans ?_ (oneMember (p := fun all => found.toList = all ∧ found.amount = d.amount .one)).symm
    simp only [Resolver.materialize, Definition.amount, Definition.extent, l]
    cases d.isCollection with
    | true =>
      have answers := answeredAnswers (.find .all a (.find how value)) (o.all a (.find how value))
      refine answers.yieldsMap.trans (exists_congr fun all => and_congr_right fun _ => ?_)
      cases found <;> simp [eq_comm]
    | false =>
      have answers := answeredAnswers (.find .first a (.find how value)) (o.first a (.find how value))
      refine answers.yieldsMap.trans ?_
      cases found <;> simp [findFirstOk]

theorem materializeSame {d : Definition} (finds : d.selector.strategy ≠ .js) {scope other found : Scope α}
    (same : scope.toList = other.toList)
    (yields : Yields ((o.resolver registry root .sequential).materialize d scope) found) :
    ∃ reached, Yields ((o.resolver registry root .sequential).materialize d other) reached ∧
      found.toList = reached.toList := by
  obtain ⟨founds, each, all, _⟩ := (materializeYields o registry root finds).mp yields
  rw [same] at each
  have reaches {reached : Scope α} (held : reached.toList = founds.flatten)
      (amount : reached.amount = d.amount other.amount) :
      Yields ((o.resolver registry root .sequential).materialize d other) reached :=
    (materializeYields o registry root finds).mpr ⟨founds, each, held, amount⟩
  cases amount : d.amount other.amount with
  | many => exact ⟨.many founds.flatten, reaches rfl amount.symm, all⟩
  | one =>
    -- then one element is held, and one is looked for below it
    have single : d.isCollection = false := by
      cases several : d.isCollection <;> simp [Definition.amount, several] at amount ⊢
    cases other with
    | many as => simp at amount
    | one a =>
      obtain ⟨found, one, whole⟩ := (oneMember (p := fun all => all = founds.flatten)).mp ⟨founds, each, rfl⟩
      simp only [Definition.extent, single] at one
      obtain ⟨b, _, rfl⟩ := findFirstOk.mp one
      exact ⟨.one b, reaches whole amount.symm, all.trans whole.symm⟩

end Steps

def Resolver.narrow {m : Type → Type} [Monad m] (r : Resolver m α) (all : Scope α) :
    Option Modifier → ExceptT ResolveError m (Scope α)
  | none => pure all
  | some modifier => applyModifier r.driver all.toList modifier

theorem foundStep {σ : Type} (r : Resolver (StateM σ) α) {current : Option Definition} {name : String} {d : Definition}
    (found : r.registry.definitionOf current name = .ok d) {modifier : Option Modifier}
    (fits : modifier.isSome = true → d.isCollection = true) (scope : Scope α) :
    r.step current scope ⟨.named name, modifier⟩ = fromDriver (r.materialize d scope) >>= fun all =>
      r.narrow all modifier >>= fun kept => pure (some d, kept) := by
  cases modifier with
  | none =>
    simp only [Resolver.step, lookupIsDefinitionOf, found]
    rfl
  | some modifier =>
    simp only [Resolver.step, lookupIsDefinitionOf, found, fits rfl, Bool.not_true, Bool.and_false, Bool.false_eq_true,
      if_false]
    rfl

theorem namedStep (r : Resolver (Recorder α) α) (current : Option Definition) (name : String)
    (modifier : Option Modifier) :
    (∃ e, ∀ scope, r.step current scope ⟨.named name, modifier⟩ = throw e) ∨
      ∃ d, r.registry.definitionOf current name = .ok d ∧ (modifier.isSome = true → d.isCollection = true) ∧
        ∀ scope, r.step current scope ⟨.named name, modifier⟩ = fromDriver (r.materialize d scope) >>= fun all =>
          r.narrow all modifier >>= fun kept => pure (some d, kept) := by
  cases found : r.registry.definitionOf current name with
  | error e =>
    refine .inl ⟨.aliasNotFound e, fun scope => ?_⟩
    simp only [Resolver.step, lookupIsDefinitionOf, found]
  | ok d =>
    by_cases fits : modifier.isSome = true → d.isCollection = true
    · exact .inr ⟨d, rfl, fits, foundStep r found fits⟩
    · obtain ⟨some, single⟩ := Classical.not_imp.mp fits
      refine .inl ⟨.invalidModifier (Step.render ⟨.named name, modifier⟩) (.notCollection name), fun scope => ?_⟩
      simp [Resolver.step, found, some, single]

theorem driverMap (x : ExceptT DriverError (Recorder α) β) (f : β → γ) :
    fromDriver (x >>= fun b => pure (f b)) = fromDriver x >>= fun b => pure (f b) := by
  refine endOfInj fun log => ?_
  rw [endOfDriver, endOfBind, endOfBind, endOfDriver]
  cases endOf x log with
  | mk out later => cases out <;> rfl

theorem thisStep {σ : Type} (r : Resolver (StateM σ) α) (current : Option Definition) (modifier : Option Modifier)
    (as : List α) : r.step current (.many as) ⟨.this, modifier⟩ =
      r.narrow (.many as) modifier >>= fun kept => pure (current, kept) := by
  cases modifier <;> rfl

section Walks

variable (o : Outcomes α) (registry : Registry) (root : Selector)

theorem narrowDefinite (fanOut : FanOut) (all : Scope α) (modifier : Option Modifier) :
    Definite ((o.resolver registry root fanOut).narrow all modifier) := by
  cases modifier with
  | none => exact pureDefinite all
  | some modifier => exact applyModifierDefinite o all.toList modifier

theorem materializeDefinite (d : Definition) (scope : Scope α) :
    Definite ((o.resolver registry root .sequential).materialize d scope) :=
  (resolverDefinite o registry root .sequential).materialize d scope

theorem metNamed {registry : Registry} {current : Option Definition} {name : String} {modifier : Option Modifier}
    {rest : List Step} {d : Definition} (found : registry.definitionOf current name = .ok d) :
    registry.met current (⟨.named name, modifier⟩ :: rest) = d :: registry.met (some d) rest := by
  simp only [Registry.met, found]

theorem namedYields {current next : Option Definition} {name : String} {modifier : Option Modifier}
    {scope found : Scope α} {d : Definition}
    (goes : (o.resolver registry root .sequential).step current scope ⟨.named name, modifier⟩ =
      fromDriver ((o.resolver registry root .sequential).materialize d scope) >>= fun all =>
        (o.resolver registry root .sequential).narrow all modifier >>= fun kept => pure (some d, kept)) :
    Yields ((o.resolver registry root .sequential).step current scope ⟨.named name, modifier⟩) (next, found) ↔
      ∃ all, Yields ((o.resolver registry root .sequential).materialize d scope) all ∧
        Yields ((o.resolver registry root .sequential).narrow all modifier) found ∧ next = some d := by
  have narrowed (all : Scope α) := narrowDefinite o registry root .sequential all modifier
  have materialized := materializeDefinite o registry root d scope
  rw [goes, yieldsBind materialized.driver fun all => (narrowed all).bind fun _ => pureDefinite _]
  refine exists_congr fun all => and_congr (yieldsDriver materialized) ?_
  rw [yieldsBind (narrowed all) fun _ => pureDefinite _]
  simp [yieldsPure, and_comm]

theorem stepSame {current next : Option Definition} {s : Step} {rest : List Step} {scope other found : Scope α}
    (finds : ∀ d ∈ registry.met current (s :: rest), d.selector.strategy ≠ .js)
    (still : s.target = .this → s.modifier = none) (same : scope.toList = other.toList)
    (yields : Yields ((o.resolver registry root .sequential).step current scope s) (next, found)) :
    (∃ reached, Yields ((o.resolver registry root .sequential).step current other s) (next, reached) ∧
      found.toList = reached.toList) ∧ registry.met next rest ⊆ registry.met current (s :: rest) := by
  obtain ⟨target, modifier⟩ := s
  cases target with
  | this =>
    cases still rfl
    cases yieldsPure.mp yields
    exact ⟨⟨other, yieldsPure.mpr rfl, same⟩, List.Subset.refl _⟩
  | named name =>
    rcases namedStep (o.resolver registry root .sequential) current name modifier with
      ⟨e, stops⟩ | ⟨d, known, _, goes⟩
    · rw [stops] at yields
      exact absurd yields yieldsThrow
    · have here : registry.definitionOf current name = .ok d := known
      rw [metNamed here] at finds ⊢
      obtain ⟨all, produced, kept, rfl⟩ := (namedYields o registry root (goes scope)).mp yields
      obtain ⟨more, again, equal⟩ := materializeSame o registry root (finds d List.mem_cons_self) same produced
      refine ⟨?_, List.subset_cons_self d _⟩
      cases modifier with
      | none =>
        cases yieldsPure.mp kept
        exact ⟨more, (namedYields o registry root (goes other)).mpr ⟨more, again, yieldsPure.mpr rfl, rfl⟩, equal⟩
      | some modifier =>
        simp only [Resolver.narrow, equal] at kept
        exact ⟨found, (namedYields o registry root (goes other)).mpr ⟨more, again, kept, rfl⟩, rfl⟩

theorem walkSame {steps : List Step} {current : Option Definition} {scope other found : Scope α}
    (finds : ∀ d ∈ registry.met current steps, d.selector.strategy ≠ .js)
    (still : ∀ s ∈ steps, s.target = .this → s.modifier = none) (same : scope.toList = other.toList)
    (yields : Yields ((o.resolver registry root .sequential).walk current scope steps) found) :
    ∃ reached, Yields ((o.resolver registry root .sequential).walk current other steps) reached ∧
      found.toList = reached.toList := by
  induction steps generalizing current scope other with
  | nil =>
    cases yieldsPure.mp yields
    exact ⟨other, yieldsPure.mpr rfl, same⟩
  | cons s rest ih =>
    have definite := stepDefinite o registry root .sequential
    have through (held reached : Scope α) :
        Yields ((o.resolver registry root .sequential).walk current held (s :: rest)) reached ↔
          ∃ p, Yields ((o.resolver registry root .sequential).step current held s) p ∧
            Yields ((o.resolver registry root .sequential).walk p.1 p.2 rest) reached :=
      yieldsBind (definite current held s) fun p => walkDefinite definite rest p.1 p.2
    obtain ⟨⟨next, between⟩, first, later⟩ := (through scope found).mp yields
    obtain ⟨⟨more, again, equal⟩, met⟩ := stepSame o registry root finds (still s List.mem_cons_self) same first
    obtain ⟨reached, last, handles⟩ := ih (fun d inside => finds d (met inside))
      (fun t inside => still t (List.mem_cons_of_mem s inside)) equal later
    exact ⟨reached, (through other reached).mpr ⟨(next, more), again, last⟩, handles⟩

theorem stepDistributes {current : Option Definition} {s : Step} {rest : List Step}
    (finds : ∀ d ∈ registry.met current (s :: rest), d.selector.strategy ≠ .js)
    (keeps : s.modifier = none ∨ ∃ f, s.modifier = some (.text f .all)) :
    (∃ e, ∀ as, (o.resolver registry root .sequential).step current (.many as) s = throw e) ∨
      ∃ next g, Distributes g ∧ registry.met next rest ⊆ registry.met current (s :: rest) ∧
        ∀ as, (o.resolver registry root .sequential).step current (.many as) s =
          g as >>= fun bs => pure (next, .many bs) := by
  have narrows : ∃ h, Distributes h ∧ ∀ bs, (o.resolver registry root .sequential).narrow (.many bs) s.modifier =
      h bs >>= fun cs => pure (.many cs) := by
    rcases keeps with none | ⟨f, some⟩
    · exact ⟨fun bs => pure bs, .pure fun _ _ => rfl, fun bs => by rw [none]; rfl⟩
    · exact ⟨_, allWithTextDistributes o f, fun bs => by rw [some]; rfl⟩
  obtain ⟨h, kept, narrow⟩ := narrows
  obtain ⟨target, modifier⟩ := s
  cases target with
  | this =>
    refine .inr ⟨current, h, kept, List.Subset.refl _, fun as => ?_⟩
    rw [thisStep, narrow, bind_assoc]
    simp only [pure_bind]
  | named name =>
    rcases namedStep (o.resolver registry root .sequential) current name modifier with
      ⟨e, stops⟩ | ⟨d, known, _, goes⟩
    · exact .inl ⟨e, fun as => stops (.many as)⟩
    · have here : registry.definitionOf current name = .ok d := known
      rw [metNamed here] at finds ⊢
      obtain ⟨how, value, l⟩ := findLocator (finds d List.mem_cons_self)
      have flat : Distributes fun founds : List (List α) =>
          (pure founds.flatten : ExceptT ResolveError (Recorder α) (List α)) := .pure fun _ _ => List.flatten_append
      have found := (inTurnDistributes o d.extent (.find how value)).driver.bind (flat.bind kept)
      refine .inr ⟨some d, _, found, List.subset_cons_self d _, fun as => ?_⟩
      rw [goes, materializeMany _ l, driverMap]
      simp only [bind_assoc, pure_bind, narrow]
      rfl

theorem walkDistributes {steps : List Step} {current : Option Definition}
    (finds : ∀ d ∈ registry.met current steps, d.selector.strategy ≠ .js)
    (keeps : ∀ s ∈ steps, s.modifier = none ∨ ∃ f, s.modifier = some (.text f .all)) :
    ∃ g, Distributes g ∧ ∀ as, (o.resolver registry root .sequential).walk current (.many as) steps =
      g as >>= fun bs => pure (.many bs) := by
  induction steps generalizing current with
  | nil => exact ⟨fun as => pure as, .pure fun _ _ => rfl, fun as => rfl⟩
  | cons s rest ih =>
    rcases stepDistributes o registry root finds (keeps s List.mem_cons_self) with
      ⟨e, stops⟩ | ⟨next, f, first, met, goes⟩
    · refine ⟨fun _ => throw e, .throw e, fun as => ?_⟩
      rw [walkStep, stops]
      rfl
    · obtain ⟨g, later, reaches⟩ := @ih next (fun d inside => finds d (met inside))
        fun t inside => keeps t (List.mem_cons_of_mem s inside)
      refine ⟨_, first.bind later, fun as => ?_⟩
      rw [walkStep, goes]
      simp only [bind_assoc, pure_bind, reaches]

end Walks

section Resolutions

variable (o : Outcomes α) (registry : Registry) (root : Selector) (fanOut : FanOut)

theorem resolvedYields {steps : List Step} {scope found : Scope α} :
    (o.resolved registry root fanOut steps scope).1 = .ok found ↔
      Yields ((o.resolver registry root .sequential).walk none scope steps) found := by
  have either : (∃ calls, o.resolved registry root fanOut steps scope = (.ok found, calls)) ↔
      ∃ calls, o.resolved registry root .sequential steps scope = (.ok found, calls) := by
    cases fanOut with
    | sequential => rfl
    | concurrent => exact exists_congr fun calls => resolvedOk o registry root
  constructor
  · intro same
    obtain ⟨calls, ends⟩ := either.mp ⟨_, Prod.ext same rfl⟩
    exact ⟨calls, (resolvedAnswers o registry root).mp ends⟩
  · rintro ⟨calls, answers⟩
    obtain ⟨_, ends⟩ := either.mpr ⟨calls, (resolvedAnswers o registry root).mpr answers⟩
    exact congrArg Prod.fst ends

/- What is found below two lists, one after the other, is what is found below each of them, and one element
leads to what the list of it leads to. -/
theorem foundByParts {steps : List Step} (finds : ∀ d ∈ registry.met none steps, d.selector.strategy ≠ .js)
    (keeps : ∀ s ∈ steps, s.modifier = none ∨ ∃ f, s.modifier = some (.text f .all)) :
    (∀ xs ys,
      ((∃ found, (o.resolved registry root fanOut steps (.many (xs ++ ys))).1 = .ok found) ↔
        (∃ found, (o.resolved registry root fanOut steps (.many xs)).1 = .ok found) ∧
          ∃ found, (o.resolved registry root fanOut steps (.many ys)).1 = .ok found) ∧
      ∀ found, (o.resolved registry root fanOut steps (.many (xs ++ ys))).1 = .ok found →
        ∃ as bs, (o.resolved registry root fanOut steps (.many xs)).1 = .ok (.many as) ∧
          (o.resolved registry root fanOut steps (.many ys)).1 = .ok (.many bs) ∧ found = .many (as ++ bs)) ∧
    ((∀ s ∈ steps, s.target = .this → s.modifier = none) → ∀ a,
      ((∃ found, (o.resolved registry root fanOut steps (.one a)).1 = .ok found) ↔
        ∃ found, (o.resolved registry root fanOut steps (.many [a])).1 = .ok found) ∧
      ∀ one many, (o.resolved registry root fanOut steps (.one a)).1 = .ok one →
        (o.resolved registry root fanOut steps (.many [a])).1 = .ok many → one.toList = many.toList) := by
  simp only [resolvedYields]
  obtain ⟨g, distributes, reaches⟩ := walkDistributes o registry root finds keeps
  have lists (as : List α) (found : Scope α) :
      Yields ((o.resolver registry root .sequential).walk none (.many as) steps) found ↔
        ∃ bs, Yields (g as) bs ∧ found = .many bs := by
    rw [reaches, yieldsBind (distributes.definite as) fun _ => pureDefinite _]
    simp only [yieldsPure]
  have succeeds (as : List α) :
      (∃ found, Yields ((o.resolver registry root .sequential).walk none (.many as) steps) found) ↔
        ∃ bs, Yields (g as) bs := by
    simp only [lists]
    exact ⟨fun ⟨_, bs, yields, _⟩ => ⟨bs, yields⟩, fun ⟨bs, yields⟩ => ⟨_, bs, yields, rfl⟩⟩
  refine ⟨fun xs ys => ⟨?_, fun found yields => ?_⟩, fun still a => ?_⟩
  · rw [succeeds, succeeds, succeeds]
    constructor
    · rintro ⟨ks, yields⟩
      obtain ⟨as, bs, left, right, _⟩ := (distributes.append xs ys ks).mp yields
      exact ⟨⟨as, left⟩, bs, right⟩
    · rintro ⟨⟨as, left⟩, bs, right⟩
      exact ⟨as ++ bs, (distributes.append xs ys _).mpr ⟨as, bs, left, right, rfl⟩⟩
  · obtain ⟨ks, whole, rfl⟩ := (lists _ found).mp yields
    obtain ⟨as, bs, left, right, rfl⟩ := (distributes.append xs ys ks).mp whole
    exact ⟨as, bs, (lists xs _).mpr ⟨as, left, rfl⟩, (lists ys _).mpr ⟨bs, right, rfl⟩, rfl⟩
  · -- both hold the same elements, and that is all the finds go by
    have alone : (Scope.one a).toList = (Scope.many [a]).toList := rfl
    refine ⟨⟨?_, ?_⟩, fun one many left right => ?_⟩
    · rintro ⟨found, yields⟩
      obtain ⟨reached, again, _⟩ := walkSame o registry root finds still alone yields
      exact ⟨reached, again⟩
    · rintro ⟨found, yields⟩
      obtain ⟨reached, again, _⟩ := walkSame o registry root finds still alone.symm yields
      exact ⟨reached, again⟩
    · obtain ⟨reached, again, equal⟩ := walkSame o registry root finds still alone left
      rw [equal, yieldsUnique again right]

end Resolutions

def pairOutcomes : Outcomes Nat where
  root _ := .ok 0
  first a _ := .ok (10 * a)
  all a _ := .ok [10 * a + 1, 10 * a + 2]
  text a := .ok (if a % 2 = 1 then "odd" else "even")
  script _ := .error .timeout
  delay _ a _ := a

def oddTitles : List Step := [⟨.named "item", some (.text (.equals "odd") .all)⟩, .named "title"]

def oddRun (scope : Scope Nat) : Except ResolveError (Scope Nat) :=
  (pairOutcomes.resolved shelf (.css "html") .concurrent oddTitles scope).1

theorem foundByPartsPairs :
    (∀ d ∈ shelf.met none oddTitles, d.selector.strategy ≠ .js) ∧
    (∀ s ∈ oddTitles, s.modifier = none ∨ ∃ f, s.modifier = some (.text f .all)) ∧
    (∀ s ∈ oddTitles, s.target = .this → s.modifier = none) ∧
    oddRun (.many ([1] ++ [2])) = .ok (.many [110, 210]) ∧
    (∃ as bs, oddRun (.many [1]) = .ok (.many as) ∧ oddRun (.many [2]) = .ok (.many bs) ∧
      Scope.many [110, 210] = .many (as ++ bs)) ∧
    ∃ found, oddRun (.one 1) = .ok found := by
  have met : shelf.met none oddTitles = [shelfItem, .element "title" (.css "b")] := rfl
  have finds : ∀ d ∈ shelf.met none oddTitles, d.selector.strategy ≠ .js := by
    simp [met, shelfItem, Definition.selector, Selector.css]
  have keeps : ∀ s ∈ oddTitles, s.modifier = none ∨ ∃ f, s.modifier = some (.text f .all) := by
    simp [oddTitles, Step.named]
  have still : ∀ s ∈ oddTitles, s.target = .this → s.modifier = none := by simp [oddTitles, Step.named]
  have both : oddRun (.many ([1] ++ [2])) = .ok (.many [110, 210]) := rfl
  have single : oddRun (.many [1]) = .ok (.many [110]) := rfl
  obtain ⟨parts, alone⟩ := foundByParts pairOutcomes shelf (.css "html") .concurrent finds keeps
  exact ⟨finds, keeps, still, both, (parts [1] [2]).2 _ both, (alone still 1).1.mpr ⟨_, single⟩⟩

end LocatorPath
