import LocatorPath.Proofs.Definition.History
import LocatorPath.Proofs.Resolve.Foresight

/-! Two drivers that answer alike. A resolution asks its driver only about the locators of its definitions and
about elements that the driver has given it before. So a resolution over one of them ends as it does over the
other, and so do all resolutions after it. -/
namespace LocatorPath

variable {α β γ : Type}

/-- Programs in two monads that end with the same good value, one after the other. -/
structure Likeness (m n : Type → Type) [Monad m] [Monad n] where
  Same : {β : Type} → (β → Prop) → m β → n β → Prop
  pure : ∀ {β : Type} {good : β → Prop} {b : β}, good b → Same good (Pure.pure b) (Pure.pure b)
  bind : ∀ {β γ : Type} {good : β → Prop} {fine : γ → Prop} {x : m β} {y : n β} {f : β → m γ} {g : β → n γ},
    Same good x y → (∀ b, good b → Same fine (f b) (g b)) → Same fine (x >>= f) (y >>= g)

variable {m n : Type → Type} [Monad m] [Monad n]

namespace Likeness

variable {ε : Type}

theorem map [LawfulMonad m] [LawfulMonad n] (like : Likeness m n) {good : β → Prop} {fine : γ → Prop} {x : m β}
    {y : n β} (f : β → γ) (same : like.Same good x y) (keeps : ∀ b, good b → fine (f b)) :
    like.Same fine (f <$> x) (f <$> y) := by
  rw [map_eq_pure_bind, map_eq_pure_bind]
  exact like.bind same fun b holds => like.pure (keeps b holds)

def Alike (like : Likeness m n) (good : β → Prop) (x : ExceptT ε m β) (y : ExceptT ε n β) : Prop :=
  like.Same (fun out => ∀ b, out = .ok b → good b) x.run y.run

namespace Alike

variable {like : Likeness m n} {good : β → Prop} {fine : γ → Prop}

theorem ended (out : Except ε β) (holds : ∀ b, out = .ok b → good b) :
    like.Alike good (ExceptT.mk (Pure.pure out)) (ExceptT.mk (Pure.pure out)) := like.pure holds

theorem pure {b : β} (holds : good b) :
    like.Alike good (Pure.pure b : ExceptT ε m β) (Pure.pure b) :=
  ended (.ok b) fun _ same => Except.ok.inj same ▸ holds

theorem throw (e : ε) : like.Alike good (MonadExcept.throw e : ExceptT ε m β) (MonadExcept.throw e) :=
  ended (.error e) fun _ same => nomatch same

theorem bind [LawfulMonad m] [LawfulMonad n] {x : ExceptT ε m β} {y : ExceptT ε n β} {f : β → ExceptT ε m γ}
    {g : β → ExceptT ε n γ} (first : like.Alike good x y) (second : ∀ b, good b → like.Alike fine (f b) (g b)) :
    like.Alike fine (x >>= f) (y >>= g) := by
  unfold Alike
  rw [ExceptT.run_bind, ExceptT.run_bind]
  refine like.bind first fun out ends => ?_
  cases out with
  | ok b => exact second b (ends b rfl)
  | error e => exact throw e

theorem adapt [LawfulMonad m] [LawfulMonad n] {δ : Type} {x : ExceptT ε m β} {y : ExceptT ε n β} (f : ε → δ)
    (alike : like.Alike good x y) : like.Alike good (ExceptT.adapt f x) (ExceptT.adapt f y) := by
  refine like.map (Except.mapError f) alike fun out ends b same => ?_
  cases out with
  | ok c =>
    obtain rfl : c = b := Except.ok.inj same
    exact ends c rfl
  | error e => exact nomatch same

theorem driver [LawfulMonad m] [LawfulMonad n] {x : ExceptT DriverError m β} {y : ExceptT DriverError n β}
    (alike : like.Alike good x y) : like.Alike good (fromDriver x) (fromDriver y) := alike.adapt ResolveError.driver

end Alike

end Likeness

structure Driver.AlikeBelow (like : Likeness m n) (fine : α → Prop) (asked : Locator → Prop) (d : Driver m α)
    (e : Driver n α) : Prop where
  first : ∀ a how value, fine a → asked (.find how value) →
    like.Alike fine (d.findFirst a (.find how value)) (e.findFirst a (.find how value))
  all : ∀ a how value, fine a → asked (.find how value) →
    like.Alike (fun found => ∀ b ∈ found, fine b) (d.findAll a (.find how value)) (e.findAll a (.find how value))
  together : ∀ extent as how value, (∀ a ∈ as, fine a) → asked (.find how value) →
    like.Alike (fun founds => ∀ b ∈ founds.flatten, fine b) (d.findTogether extent as (.find how value))
      (e.findTogether extent as (.find how value))
  text : ∀ a, fine a → like.Alike (fun _ => True) (d.text a) (e.text a)
  script : ∀ source, asked (.script source) →
    like.Alike (fun scope => ∀ b ∈ scope.toList, fine b) (d.runScript source) (e.runScript source)

structure Driver.Alike (like : Likeness m n) (fine : α → Prop) (asked : Locator → Prop) (d : Driver m α)
    (e : Driver n α) : Prop extends d.AlikeBelow like fine asked e where
  root : ∀ how value, asked (.find how value) →
    like.Alike fine (d.findRoot (.find how value)) (e.findRoot (.find how value))

def Registry.Defines (r : Registry) (d : Definition) : Prop := ∃ sub, r.Contains sub ∧ d ∈ sub.definitions

theorem definesBelow {r : Registry} {d : Definition} : r.Defines d ↔
    d ∈ r.definitions ∨ ∃ g ∈ r.definitions, ∃ children, g.children? = some children ∧ children.Defines d := by
  constructor
  · rintro ⟨sub, contains, inside⟩
    cases contains with
    | self => exact .inl inside
    | deeper member below rest => exact .inr ⟨_, member, _, below, sub, rest, inside⟩
  · rintro (inside | ⟨g, member, children, below, sub, contains, inside⟩)
    · exact ⟨r, .self r, inside⟩
    · exact ⟨sub, .deeper member below contains, inside⟩

theorem containsBelow {r sub children : Registry} {d : Definition} (contains : r.Contains sub)
    (inside : d ∈ sub.definitions) (below : d.children? = some children) : r.Contains children := by
  induction contains with
  | self r => exact .deeper inside below (.self children)
  | deeper member kids _ ih => exact .deeper member kids (ih inside)

theorem definesNext {r : Registry} {current : Option Definition} {name : String} {d : Definition}
    (within : ∀ g, current = some g → r.Defines g) (found : r.definitionOf current name = .ok d) :
    r.Defines d := by
  have member {sub : Registry} (got : sub.lookup name = .ok d) : d ∈ sub.definitions := by
    unfold Registry.lookup at got
    split at got
    · next here =>
      cases got
      exact (List.mem_of_find?_eq_some here)
    · cases got
  cases current with
  | none => exact ⟨r, .self r, member found⟩
  | some g =>
    obtain ⟨sub, contains, inside⟩ := within g rfl
    simp only [Registry.definitionOf] at found
    split at found
    · next children below => exact ⟨children, containsBelow contains inside below, member found⟩
    · cases found

inductive Question where
  | elements (path : String)
  | texts (path : String)

inductive Finding (α : Type) where
  | elements (scope : Scope α)
  | texts (texts : List String)
  deriving DecidableEq, Repr

def Resolver.ask (r : Resolver m α) : Question → ExceptT ResolveError m (Finding α)
  | .elements path => do return .elements (← r.resolve path)
  | .texts path => do return .texts (← r.textOf path)

def Resolver.askAll (r : Resolver m α) : List Question → m (List (Except ResolveError (Finding α)))
  | [] => return []
  | q :: rest => do
    let answer ← (r.ask q).run
    let others ← r.askAll rest
    return answer :: others

section Drivers

variable [LawfulMonad m] [LawfulMonad n] {like : Likeness m n} {fine : α → Prop} {asked : Locator → Prop}
  {d : Driver m α} {e : Driver n α} (drivers : d.AlikeBelow like fine asked e)

include drivers

theorem findAlike (extent : Extent) {a : α} {how : Using} {value : String} (held : fine a)
    (known : asked (.find how value)) : like.Alike (fun found => ∀ b ∈ found, fine b)
      (d.find extent a (.find how value)) (e.find extent a (.find how value)) := by
  cases extent with
  | all => exact drivers.all a how value held known
  | first =>
    refine (drivers.first a how value held known).bind fun b holds => .pure ?_
    simpa using holds

theorem findInTurnAlike (extent : Extent) {as : List α} {how : Using} {value : String} (held : ∀ a ∈ as, fine a)
    (known : asked (.find how value)) : like.Alike (fun founds => ∀ b ∈ founds.flatten, fine b)
      (d.findInTurn extent (.find how value) as) (e.findInTurn extent (.find how value) as) := by
  induction as with
  | nil => exact .pure (by simp)
  | cons a rest ih =>
    have here := findAlike drivers extent (held a List.mem_cons_self) known
    have later := ih fun b inside => held b (List.mem_cons_of_mem a inside)
    refine here.bind fun found one => later.bind fun founds others => .pure ?_
    rw [List.flatten_cons]
    exact List.forall_mem_append.mpr ⟨one, others⟩

theorem firstWithTextAlike (f : TextFilter) {as : List α} (held : ∀ a ∈ as, fine a) :
    like.Alike (fun scope => ∀ b ∈ scope.toList, fine b) (firstWithText d f as) (firstWithText e f as) := by
  induction as with
  | nil => exact .throw _
  | cons a rest ih =>
    obtain ⟨here, later⟩ := List.forall_mem_cons.mp held
    refine (drivers.text a here).driver.bind fun text _ => ?_
    split
    · exact .pure (by simpa using here)
    · exact ih later

theorem allWithTextAlike (f : TextFilter) {as : List α} (held : ∀ a ∈ as, fine a) :
    like.Alike (fun found => ∀ b ∈ found, fine b) (allWithText d f as) (allWithText e f as) := by
  induction as with
  | nil => exact .pure (by simp)
  | cons a rest ih =>
    obtain ⟨here, later⟩ := List.forall_mem_cons.mp held
    refine (drivers.text a here).driver.bind fun text _ => (ih later).bind fun others kept => .pure ?_
    split
    · exact List.forall_mem_cons.mpr ⟨here, kept⟩
    · exact kept

theorem applyModifierAlike (modifier : Modifier) {as : List α} (held : ∀ a ∈ as, fine a) :
    like.Alike (fun scope => ∀ b ∈ scope.toList, fine b) (applyModifier d as modifier)
      (applyModifier e as modifier) := by
  cases modifier with
  | index spec =>
    refine .ended _ fun found selected b inside => held b ?_
    exact (selectIndexNarrows selected).sublist.subset inside
  | text f c =>
    cases c with
    | first => exact firstWithTextAlike drivers f held
    | all => exact (allWithTextAlike drivers f held).bind fun found kept => .pure kept

section Resolvers

variable (registry : Registry) (options : ResolveOptions)

theorem materializeAlike {definition : Definition} (known : asked definition.selector.locator) {scope : Scope α}
    (held : ∀ a ∈ scope.toList, fine a) : like.Alike (fun found => ∀ b ∈ found.toList, fine b)
      ((Resolver.mk d registry options).materialize definition scope)
      ((Resolver.mk e registry options).materialize definition scope) := by
  unfold Resolver.materialize
  generalize definition.selector.locator = l at known
  cases l with
  | script source =>
    refine (drivers.script source known).bind fun produced kept => .pure ?_
    split
    · exact kept
    · exact kept
  | find how value =>
    cases scope with
    | one a =>
      have here : fine a := held a (by simp)
      dsimp only
      split
      · exact (drivers.all a how value here known).bind fun found kept => .pure kept
      · exact (drivers.first a how value here known).bind fun b kept => .pure (by simpa using kept)
    | many as =>
      dsimp only
      cases options.fanOut with
      | concurrent => exact (drivers.together _ as how value held known).bind fun founds kept => .pure kept
      | sequential => exact (findInTurnAlike drivers _ held known).bind fun founds kept => .pure kept

theorem stepAlike (known : ∀ g, registry.Defines g → asked g.selector.locator) {current : Option Definition}
    {scope : Scope α} (within : ∀ g, current = some g → registry.Defines g) (held : ∀ a ∈ scope.toList, fine a)
    (s : Step) : like.Alike
      (fun next => (∀ g, next.1 = some g → registry.Defines g) ∧ ∀ b ∈ next.2.toList, fine b)
      ((Resolver.mk d registry options).step current scope s)
      ((Resolver.mk e registry options).step current scope s) := by
  obtain ⟨target, modifier⟩ := s
  cases target with
  | this =>
    unfold Resolver.step
    cases modifier with
    | none => exact .pure ⟨within, held⟩
    | some modifier =>
      cases scope with
      | one a => exact .throw _
      | many as => exact (applyModifierAlike drivers modifier held).bind fun found kept => .pure ⟨within, kept⟩
  | named name =>
    simp only [Resolver.step, lookupIsDefinitionOf]
    cases found : registry.definitionOf current name with
    | error stops => exact .throw _
    | ok g =>
      have defined := definesNext within found
      have here (h : Definition) (same : some g = some h) : registry.Defines h := Option.some.inj same ▸ defined
      dsimp only
      split
      · exact .throw _
      · refine (materializeAlike drivers registry options (known g defined) held).driver.bind fun all kept => ?_
        cases modifier with
        | none => exact .pure ⟨here, kept⟩
        | some modifier => exact (applyModifierAlike drivers modifier kept).bind fun few left => .pure ⟨here, left⟩

theorem walkAlike (known : ∀ g, registry.Defines g → asked g.selector.locator) (steps : List Step)
    {current : Option Definition} {scope : Scope α} (within : ∀ g, current = some g → registry.Defines g)
    (held : ∀ a ∈ scope.toList, fine a) : like.Alike (fun found => ∀ b ∈ found.toList, fine b)
      ((Resolver.mk d registry options).walk current scope steps)
      ((Resolver.mk e registry options).walk current scope steps) := by
  induction steps generalizing current scope with
  | nil => exact .pure held
  | cons s rest ih =>
    exact (stepAlike drivers registry options known within held s).bind fun next kept => ih kept.1 kept.2

variable {options}

theorem readTextsAlike {as : List α} (held : ∀ a ∈ as, fine a) : like.Alike (fun _ => True)
    ((Resolver.mk d registry options).readTexts as) ((Resolver.mk e registry options).readTexts as) := by
  induction as with
  | nil => exact .pure trivial
  | cons a rest ih =>
    obtain ⟨here, later⟩ := List.forall_mem_cons.mp held
    refine (drivers.text a here).driver.bind fun text _ => (ih later).bind fun texts _ => .pure trivial

end Resolvers

end Drivers

section Roots

variable [LawfulMonad m] [LawfulMonad n] {like : Likeness m n} {fine : α → Prop} {asked : Locator → Prop}
  {d : Driver m α} {e : Driver n α} (drivers : d.Alike like fine asked e) (registry : Registry)
  {options : ResolveOptions}

include drivers

theorem resolveAlike (known : ∀ g, registry.Defines g → asked g.selector.locator) {how : Using} {value : String}
    (root : options.root.locator = .find how value) (start : asked (.find how value)) (path : String) :
    like.Alike (fun found => ∀ b ∈ found.toList, fine b) ((Resolver.mk d registry options).resolve path)
      ((Resolver.mk e registry options).resolve path) := by
  unfold Resolver.resolve
  cases parse path with
  | error stops => exact .throw _
  | ok steps =>
    dsimp only
    rw [root]
    refine (drivers.root how value start).driver.bind fun a held => ?_
    exact walkAlike drivers.toAlikeBelow registry options known steps (fun _ none => nomatch none)
      (by simpa using held)

theorem askAllAlike (known : ∀ g, registry.Defines g → asked g.selector.locator) {how : Using} {value : String}
    (root : options.root.locator = .find how value) (start : asked (.find how value)) (questions : List Question) :
    like.Same (fun _ => True) ((Resolver.mk d registry options).askAll questions)
      ((Resolver.mk e registry options).askAll questions) := by
  induction questions with
  | nil => exact like.pure trivial
  | cons q rest ih =>
    have resolved (path : String) := resolveAlike drivers registry known root start path
    have answered : like.Alike (fun _ => True) ((Resolver.mk d registry options).ask q)
        ((Resolver.mk e registry options).ask q) := by
      cases q with
      | elements path => exact (resolved path).bind fun found _ => .pure trivial
      | texts path =>
        have texts : like.Alike (fun _ => True) ((Resolver.mk d registry options).textOf path)
            ((Resolver.mk e registry options).textOf path) :=
          (resolved path).bind fun found held => readTextsAlike drivers.toAlikeBelow registry held
        exact texts.bind fun _ _ => .pure trivial
    exact like.bind answered fun out _ => like.bind ih fun others _ => like.pure trivial

end Roots

end LocatorPath
