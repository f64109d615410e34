import LocatorPath.Page
import LocatorPath.Proofs.Resolve.Likeness

/-! What find methods are given. A driver under watch answers as it does without a record of its calls, and below the
root a resolution asks it only for what the definitions of the tree say: for elements by selectors, and for the
results of scripts. The root is found by whatever its own selector stands for. -/
namespace LocatorPath

variable {σ α β γ ε : Type} {m : Type → Type}

def Call.isSelective : Call α → Bool
  | .findRoot (.script _) | .find _ _ (.script _) => false
  | _ => true

inductive Registry.Asks (r : Registry) : Call α → Prop
  | find {d : Definition} (defines : r.Defines d) (selects : d.selector.strategy ≠ .js) (extent : Extent) (a : α) :
      r.Asks (.find extent a d.selector.locator)
  | text (a : α) : r.Asks (.text a)
  | script {source : String} {d : Definition} (defines : r.Defines d) (runs : d.selector = ⟨.js, source⟩) :
      r.Asks (.script source)

theorem findStrategy {s : Selector} {how : Using} {value : String} (finds : s.locator = .find how value) :
    s.strategy ≠ .js := by
  intro js
  simp [Selector.locator, js] at finds

theorem scriptSelector {s : Selector} {source : String} (script : s.locator = .script source) : s = ⟨.js, source⟩ := by
  obtain ⟨strategy, value⟩ := s
  cases scriptStrategy script
  cases script
  rfl

theorem rootSelective (s : Selector) : (Call.findRoot s.locator : Call α).isSelective = true ↔ s.strategy ≠ .js := by
  cases l : s.locator with
  | find how value => exact ⟨fun _ => findStrategy l, fun _ => rfl⟩
  | script source => simp [Call.isSelective, scriptStrategy l]

theorem Registry.Asks.selective {r : Registry} {c : Call α} (asks : r.Asks c) : c.isSelective = true := by
  cases asks with
  | find defines selects extent a =>
    obtain ⟨how, value, l⟩ := findLocator selects
    rw [l]
    rfl
  | text a => rfl
  | script defines runs => rfl

def noted (calls : List (Call α)) (x : ExceptT DriverError (StateM σ) β) :
    ExceptT DriverError (StateM (List (Call α) × σ)) β := ExceptT.mk do
  let (record, s) ← get
  let (out, later) := endOf x s
  set (record ++ calls, later)
  return out

def Driver.watched (d : Driver (StateM σ) α) : Driver (StateM (List (Call α) × σ)) α where
  findRoot l := noted [.findRoot l] (d.findRoot l)
  findFirst a l := noted [.find .first a l] (d.findFirst a l)
  findAll a l := noted [.find .all a l] (d.findAll a l)
  findTogether extent as l := noted (as.map fun a => .find extent a l) (d.findTogether extent as l)
  text a := noted [.text a] (d.text a)
  runScript source := noted [.script source] (d.runScript source)

structure Asking (fine : Call α → Prop) (x : ExceptT ε (StateM (List (Call α) × σ)) β) (y : ExceptT ε (StateM σ) β)
    (s : σ) : Prop where
  faithful : (endOf x ([], s)).1 = (endOf y s).1 ∧ (endOf x ([], s)).2.2 = (endOf y s).2
  calls : ∀ c ∈ (endOf x ([], s)).2.1, fine c

def watching (fine : Call α → Prop) : Likeness (StateM (List (Call α) × σ)) (StateM σ) where
  Same good x y := ∀ record s, ∃ calls, (∀ c ∈ calls, fine c) ∧ good (y.run s).1 ∧
    x.run (record, s) = ((y.run s).1, record ++ calls, (y.run s).2)
  pure holds record s := ⟨[], by simp, holds, by rw [List.append_nil]; rfl⟩
  bind {_ _ _ _ x y f g} first second record s := by
    obtain ⟨calls, asked, holds, ran⟩ := first record s
    obtain ⟨more, others, ends, later⟩ := second (y.run s).1 holds (record ++ calls) (y.run s).2
    refine ⟨calls ++ more, List.forall_mem_append.mpr ⟨asked, others⟩, ends, ?_⟩
    rw [← List.append_assoc]
    exact (congrArg (fun ended => (f ended.1).run ended.2) ran).trans later

section Watched

variable {fine : Call α → Prop} {x : ExceptT ε (StateM (List (Call α) × σ)) β} {y : ExceptT ε (StateM σ) β}

theorem notedAlike {calls : List (Call α)} {good : β → Prop} {x : ExceptT DriverError (StateM σ) β}
    (asked : ∀ c ∈ calls, fine c) (always : ∀ b, good b) : (watching fine).Alike good (noted calls x) x :=
  fun _ _ => ⟨calls, asked, fun b _ => always b, rfl⟩

theorem watchingMore {good : β → Prop} {more : Call α → Prop} (alike : (watching fine).Alike good x y)
    (weaker : ∀ c, fine c → more c) : (watching more).Alike (fun _ => True) x y := by
  intro record s
  obtain ⟨calls, asked, _, ran⟩ := alike record s
  exact ⟨calls, fun c inside => weaker c (asked c inside), fun _ _ => trivial, ran⟩

theorem watchingAsks {good : β → Prop} (alike : (watching fine).Alike good x y) (s : σ) : Asking fine x y s := by
  obtain ⟨calls, asked, _, ran⟩ := alike [] s
  have ended : endOf x ([], s) = ((endOf y s).1, calls, (endOf y s).2) := ran
  constructor
  · rw [ended]
    exact ⟨rfl, rfl⟩
  · rw [ended]
    exact asked

end Watched

section Resolutions

variable (d : Driver (StateM σ) α) (registry : Registry)

theorem watchedAlike : d.watched.AlikeBelow (watching registry.Asks) (fun _ => True)
    (fun l => ∃ g, registry.Defines g ∧ g.selector.locator = l) d := by
  have finds (extent : Extent) (a : α) {how : Using} {value : String}
      (known : ∃ g, registry.Defines g ∧ g.selector.locator = .find how value) :
      registry.Asks (.find extent a (.find how value)) := by
    obtain ⟨g, defines, l⟩ := known
    exact l ▸ .find defines (findStrategy l) extent a
  constructor
  · intro a how value _ known
    exact notedAlike (by simpa using finds .first a known) fun _ => trivial
  · intro a how value _ known
    exact notedAlike (by simpa using finds .all a known) fun _ _ _ => trivial
  · intro extent as how value _ known
    exact notedAlike (List.forall_mem_map.mpr fun a _ => finds extent a known) fun _ _ _ => trivial
  · intro a _
    exact notedAlike (by simpa using Registry.Asks.text a) fun _ => trivial
  · rintro source ⟨g, defines, l⟩
    exact notedAlike (by simpa using Registry.Asks.script defines (scriptSelector l)) fun _ _ _ => trivial

variable (options : ResolveOptions)

theorem stepsWatched (steps : List Step) (scope : Scope α) : (watching registry.Asks).Alike (fun _ => True)
    ((Resolver.mk d.watched registry options).resolveSteps steps scope)
    ((Resolver.mk d registry options).resolveSteps steps scope) := by
  have known (g : Definition) (defines : registry.Defines g) :
      ∃ h, registry.Defines h ∧ h.selector.locator = g.selector.locator := ⟨g, defines, rfl⟩
  refine watchingMore (walkAlike (watchedAlike d registry) registry options known steps ?_ ?_) fun _ asks => asks
  · exact fun _ none => nomatch none
  · exact fun _ _ => trivial

theorem textsWatched (as : List α) : (watching registry.Asks).Alike (fun _ => True)
    ((Resolver.mk d.watched registry options).readTexts as) ((Resolver.mk d registry options).readTexts as) :=
  readTextsAlike (watchedAlike d registry) registry fun _ _ => trivial

theorem rootWatched {next : α → ExceptT ResolveError (StateM (List (Call α) × σ)) β}
    {plain : α → ExceptT ResolveError (StateM σ) β}
    (later : ∀ a, (watching registry.Asks).Alike (fun _ => True) (next a) (plain a)) (l : Locator) (s : σ) :
    Asking (fun c => c = .findRoot l ∨ registry.Asks c) (fromDriver (d.watched.findRoot l) >>= next)
        (fromDriver (d.findRoot l) >>= plain) s ∧
      .findRoot l ∈ (endOf (fromDriver (d.watched.findRoot l) >>= next) ([], s)).2.1 := by
  have ended : endOf (fromDriver (d.watched.findRoot l)) ([], s) =
      ((endOf (d.findRoot l) s).1.mapError .driver, [.findRoot l], (endOf (d.findRoot l) s).2) := rfl
  have watched := endOfBind (fromDriver (d.watched.findRoot l)) next ([], s)
  have plainly := endOfBind (fromDriver (d.findRoot l)) plain s
  rw [ended] at watched
  rw [endOfDriver] at plainly
  cases found : (endOf (d.findRoot l) s).1 with
  | error e =>
    simp only [found, Except.mapError] at watched plainly
    refine ⟨⟨?_, ?_⟩, ?_⟩
    · rw [watched, plainly]
      exact ⟨rfl, rfl⟩
    · rw [watched]
      exact List.forall_mem_singleton.mpr (.inl rfl)
    · rw [watched]
      exact List.mem_singleton_self _
  | ok a =>
    obtain ⟨calls, asked, _, ran⟩ := later a [.findRoot l] (endOf (d.findRoot l) s).2
    simp only [found, Except.mapError] at watched plainly
    have whole : endOf (fromDriver (d.watched.findRoot l) >>= next) ([], s) =
        ((endOf (plain a) (endOf (d.findRoot l) s).2).1, [.findRoot l] ++ calls,
          (endOf (plain a) (endOf (d.findRoot l) s).2).2) := watched.trans ran
    refine ⟨⟨?_, ?_⟩, ?_⟩
    · rw [whole, plainly]
      exact ⟨rfl, rfl⟩
    · rw [whole]
      exact List.forall_mem_append.mpr
        ⟨List.forall_mem_singleton.mpr (.inl rfl), fun c inside => .inr (asked c inside)⟩
    · rw [whole]
      exact List.mem_append_left _ (List.mem_singleton_self _)

/-- A resolution from the root. It asks for the root and for what the definitions say, and it gives a script to a find
just when it gets as far as a root that a script selects. -/
structure AskingFromRoot (path : String) (x : ExceptT ResolveError (StateM (List (Call α) × σ)) β)
    (y : ExceptT ResolveError (StateM σ) β) (s : σ) : Prop where
  asking : Asking (fun c => c = .findRoot options.root.locator ∨ registry.Asks c) x y s
  selective : (∀ c ∈ (endOf x ([], s)).2.1, c.isSelective = true) ↔
    options.root.strategy ≠ .js ∨ ∃ e, parse path = .error e

theorem throwFromRoot {path : String} {e : ParseError} (fails : parse path = .error e) (cause : ResolveError) (s : σ) :
    AskingFromRoot (α := α) (β := β) registry options path (throw cause) (throw cause) s where
  asking := ⟨⟨rfl, rfl⟩, List.forall_mem_nil _⟩
  selective := iff_of_true (List.forall_mem_nil _) (.inr ⟨e, fails⟩)

theorem rootFromRoot {path : String} {steps : List Step} (parsed : parse path = .ok steps)
    {next : α → ExceptT ResolveError (StateM (List (Call α) × σ)) β} {plain : α → ExceptT ResolveError (StateM σ) β}
    (later : ∀ a, (watching registry.Asks).Alike (fun _ => True) (next a) (plain a)) (s : σ) :
    AskingFromRoot registry options path (fromDriver (d.watched.findRoot options.root.locator) >>= next)
      (fromDriver (d.findRoot options.root.locator) >>= plain) s := by
  obtain ⟨asking, rooted⟩ := rootWatched d registry later options.root.locator s
  refine ⟨asking, ?_, ?_⟩
  · intro selective
    exact .inl ((rootSelective options.root).mp (selective _ rooted))
  · rintro (selected | ⟨e, fails⟩) c called
    · rcases asking.calls c called with rfl | asks
      · exact (rootSelective options.root).mpr selected
      · exact asks.selective
    · exact nomatch parsed.symm.trans fails

theorem findsGivenSelectors (path : String) (s : σ) :
    let watched : Resolver (StateM (List (Call α) × σ)) α := ⟨d.watched, registry, options⟩
    let plain : Resolver (StateM σ) α := ⟨d, registry, options⟩
    (∀ scope, Asking registry.Asks (watched.resolveIn path scope) (plain.resolveIn path scope) s) ∧
      AskingFromRoot registry options path (watched.resolve path) (plain.resolve path) s ∧
      AskingFromRoot registry options path (watched.textOf path) (plain.textOf path) s := by
  intro watched plain
  unfold Resolver.textOf Resolver.resolveIn Resolver.resolve
  cases parsed : parse path with
  | error e =>
    refine ⟨fun scope => ?_, throwFromRoot registry options parsed _ s, throwFromRoot registry options parsed _ s⟩
    exact ⟨⟨rfl, rfl⟩, List.forall_mem_nil _⟩
  | ok steps =>
    have walked (scope : Scope α) := stepsWatched d registry options steps scope
    refine ⟨fun scope => watchingAsks (walked scope) s, ?_, ?_⟩
    · exact rootFromRoot d registry options parsed (fun a => walked (.one a)) s
    · dsimp only
      rw [bind_assoc, bind_assoc]
      exact rootFromRoot d registry options parsed
        (fun a => (walked (.one a)).bind fun found _ => textsWatched d registry options found.toList) s

end Resolutions

def scriptRootPage : Page :=
  ⟨[⟨none, ["html"], "", false, 0, none, none⟩], [("return document.documentElement", .ok (.one 0))]⟩

/- The script would give the root, but it is handed to a find. -/
theorem rootScriptHandedToFind :
    let root : Selector := ⟨.js, "return document.documentElement"⟩
    let run := runFrom [] ((scriptRootPage.outcomes.resolver .empty root .concurrent).resolve "this")
    run = (.error (.driver (.unsupportedLocator "script")), [.findRoot root.locator]) ∧
      run.2.all Call.isSelective = false ∧ scriptRootPage.outcomes.script root.value = .ok (.one 0) := by
  decide +kernel

end LocatorPath
