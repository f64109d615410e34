import LocatorPath.Proofs.Page.Order
import LocatorPath.Proofs.Path.Pieces
import LocatorPath.Proofs.Resolve.FanOut
import LocatorPath.Proofs.Resolve.Foresight

/-! The order of results. A list stays an antichain of the page in document order as long as no
definition of a collection finds a node below another one that it finds. -/
namespace LocatorPath

variable {σ : Type}

def Page.seen (p : Page) (fits : Locator → Nat → Bool) (l : Locator) (a : Nat) : List Nat :=
  (List.range p.size).filter fun n => fits l n && p.isBelow n a

def Page.Finds (p : Page) (fits : Locator → Nat → Bool) (l : Locator) (a : Nat) :
    Extent → List Nat → Prop
  | .first, found => ∃ n, (p.seen fits l a).head? = some n ∧ found = [n]
  | .all, found => found = p.seen fits l a

structure Driver.Shows (d : Driver (StateM σ) Nat) (p : Page) (fits : Locator → Nat → Bool) : Prop where
  first : ∀ a l, Ends (d.findFirst a l) (fun n => p.Finds fits l a .first [n]) fun _ => True
  all : ∀ a l, Ends (d.findAll a l) (p.Finds fits l a .all) fun _ => True
  together : ∀ extent as l, Ends (d.findTogether extent as l)
    (List.Forall₂ (fun a found => p.Finds fits l a extent found) as) fun _ => True

def Page.Flat (p : Page) (fits : Locator → Nat → Bool) (l : Locator) : Prop :=
  ∀ a n, fits l a = true → fits l n = true → p.isBelow n a = false

structure Page.Ordered (p : Page) (among : Nat → Prop) (ns : List Nat) : Prop where
  among : ∀ n ∈ ns, among n
  order : ns.Pairwise p.Precedes

section Lists

variable {p : Page} {fits : Locator → Nat → Bool} {l : Locator} {a : Nat} {extent : Extent}
  {ns found : List Nat} {among : Nat → Prop}

theorem Page.Ordered.sublist (ordered : p.Ordered among ns) (sublist : found.Sublist ns) :
    p.Ordered among found :=
  ⟨fun n inside => ordered.among n (sublist.subset inside), ordered.order.sublist sublist⟩

theorem Page.Ordered.single {n : Nat} (fine : among n) : p.Ordered among [n] :=
  ⟨by simpa using fine, List.pairwise_singleton _ n⟩

theorem seenBelow : ∀ n ∈ p.seen fits l a, p.isBelow n a = true := by
  intro n inside
  have both := (List.mem_filter.mp inside).2
  exact (Bool.and_eq_true_iff.mp both).2

theorem seenOrdered (flat : p.Flat fits l) : p.Ordered (p.isBelow · a = true) (p.seen fits l a) := by
  refine ⟨seenBelow, ?_⟩
  have increasing : (p.seen fits l a).Pairwise (· < ·) := List.pairwise_lt_range.filter _
  refine increasing.imp_of_mem fun {m n} left right less => ⟨less, ?_⟩
  have one := (List.mem_filter.mp left).2
  have two := (List.mem_filter.mp right).2
  exact flat m n (Bool.and_eq_true_iff.mp one).1 (Bool.and_eq_true_iff.mp two).1

theorem findsOrdered (finds : p.Finds fits l a extent found)
    (flat : extent = .all → p.Flat fits l) : p.Ordered (p.isBelow · a = true) found := by
  cases extent with
  | first =>
    obtain ⟨n, head, rfl⟩ := finds
    exact .single (seenBelow n (List.mem_of_head? head))
  | all =>
    cases finds
    exact seenOrdered (flat rfl)

/- What is found below the members of an ordered list is ordered as a whole. The induction is on the
members: all that is below the first comes before all that is below the others. -/
theorem flattenOrdered (order : p.InOrder) {as : List Nat} {founds : List (List Nat)}
    (members : as.Pairwise p.Precedes)
    (each : List.Forall₂ (fun a found => p.Ordered (p.isBelow · a = true) found) as founds) :
    p.Ordered (fun n => ∃ a ∈ as, p.isBelow n a = true) founds.flatten := by
  induction each with
  | nil => exact ⟨by simp, .nil⟩
  | @cons a found rest others one more ih =>
    obtain ⟨before, members⟩ := List.pairwise_cons.mp members
    have later := ih members
    rw [List.flatten_cons]
    constructor
    · intro n inside
      rcases List.mem_append.mp inside with left | right
      · exact ⟨a, List.mem_cons_self, one.among n left⟩
      · obtain ⟨b, member, below⟩ := later.among n right
        exact ⟨b, List.mem_cons_of_mem a member, below⟩
    · refine List.pairwise_append.mpr ⟨one.order, later.order, fun x left y right => ?_⟩
      obtain ⟨b, member, below⟩ := later.among y right
      exact (before b member).inside order (.inr (one.among x left)) (.inr below)

end Lists

section Resolutions

variable {p : Page} {fits : Locator → Nat → Bool} {r : Resolver (StateM σ) Nat}

theorem findInTurnShows {d : Driver (StateM σ) Nat} (shows : d.Shows p fits) (extent : Extent)
    (l : Locator) (as : List Nat) : Ends (d.findInTurn extent l as)
      (List.Forall₂ (fun a found => p.Finds fits l a extent found) as) fun _ => True := by
  induction as with
  | nil => exact .pure .nil
  | cons a rest ih =>
    have one : Ends (d.find extent a l) (p.Finds fits l a extent) fun _ => True := by
      cases extent with
      | first => exact (shows.first a l).bind fun n found => .pure found
      | all => exact shows.all a l
    exact one.bind fun found finds => ih.bind fun others more => .pure (.cons finds more)

theorem findsShow (shows : r.driver.Shows p fits) (extent : Extent) (as : List Nat) (l : Locator) :
    Ends (r.finds extent as l) (List.Forall₂ (fun a found => p.Finds fits l a extent found) as)
      fun _ => True := by
  unfold Resolver.finds
  cases r.options.fanOut with
  | concurrent => exact shows.together extent as l
  | sequential => exact findInTurnShows shows extent l as

structure Definition.Orderly (d : Definition) (p : Page) (fits : Locator → Nat → Bool) : Prop where
  finds : d.selector.strategy ≠ .js
  flat : d.isCollection = true → p.Flat fits d.selector.locator

variable (order : p.InOrder) (shows : r.driver.Shows p fits) {root : Nat}

include order shows

theorem materializeOrdered {d : Definition} (orderly : d.Orderly p fits) {scope : Scope Nat}
    (ordered : p.Ordered (p.Within · root) scope.toList) : Ends (r.materialize d scope)
      (fun found => p.Ordered (p.isBelow · root = true) found.toList) fun _ => True := by
  obtain ⟨how, value, l⟩ := findLocator orderly.finds
  have under {n a : Nat} (below : p.isBelow n a = true) (within : p.Within a root) :
      p.isBelow n root = true := by
    rcases within with rfl | further
    · exact below
    · exact order.trans below further
  have single {a : Nat} {extent : Extent} {found : List Nat} (within : p.Within a root)
      (finds : p.Finds fits (.find how value) a extent found)
      (flat : extent = .all → p.Flat fits (.find how value)) :
      p.Ordered (p.isBelow · root = true) found := by
    obtain ⟨among, sorted⟩ := findsOrdered finds flat
    exact ⟨fun n inside => under (among n inside) within, sorted⟩
  cases scope with
  | one a =>
    have within : p.Within a root := ordered.among a List.mem_cons_self
    simp only [Resolver.materialize, l]
    cases several : d.isCollection with
    | true =>
      exact (shows.all a _).bind fun found finds => .pure (single within finds fun _ => l ▸ orderly.flat several)
    | false => exact (shows.first a _).bind fun found finds => .pure (single within finds (by simp))
  | many as =>
    rw [materializeMany r l]
    refine (findsShow shows _ as _).bind fun founds finds => .pure ?_
    have flat : d.extent = .all → p.Flat fits (.find how value) := by
      intro all
      refine l ▸ orderly.flat ?_
      unfold Definition.extent at all
      split at all <;> first | assumption | contradiction
    -- what is found below one member stays within its block, and the blocks are in order
    have sorted := flattenOrdered order ordered.order (finds.imp fun a found one => findsOrdered one flat)
    refine ⟨fun n inside => ?_, sorted.order⟩
    obtain ⟨a, member, below⟩ := sorted.among n inside
    exact under below (ordered.among a member)

theorem namedOrdered {name : String} {modifier : Option Modifier} {current : Option Definition}
    {rest : List Step} (orderly : ∀ d ∈ r.registry.met current (⟨.named name, modifier⟩ :: rest), d.Orderly p fits)
    {scope : Scope Nat} (ordered : p.Ordered (p.Within · root) scope.toList) :
    Ends (r.step current scope ⟨.named name, modifier⟩)
      (fun q => p.Ordered (p.isBelow · root = true) q.2.toList ∧
        r.registry.met q.1 rest ⊆ r.registry.met current (⟨.named name, modifier⟩ :: rest))
      fun _ => True := by
  simp only [Resolver.step, lookupIsDefinitionOf]
  simp only [Registry.met] at orderly ⊢
  cases found : r.registry.definitionOf current name with
  | error e => exact .throw trivial
  | ok d =>
    rw [found] at orderly
    have met : r.registry.met (some d) rest ⊆ d :: r.registry.met (some d) rest := List.subset_cons_self d _
    have materialized := (materializeOrdered order shows (orderly d List.mem_cons_self) ordered).driver.anyhow
    dsimp only
    split
    · exact .throw trivial
    · refine materialized.bind fun found sorted => ?_
      cases modifier with
      | none => exact .pure ⟨sorted, met⟩
      | some modifier =>
        exact (applyModifierEnds r.driver found.toList modifier).anyhow.bind fun kept narrowed =>
          .pure ⟨sorted.sublist narrowed.sublist, met⟩

omit order shows in
theorem thisOrdered {among : Nat → Prop} {modifier : Option Modifier} {current : Option Definition}
    {scope : Scope Nat} (ordered : p.Ordered among scope.toList) :
    Ends (r.step current scope ⟨.this, modifier⟩)
      (fun q => q.1 = current ∧ p.Ordered among q.2.toList) fun _ => True := by
  cases modifier with
  | none => exact .pure ⟨rfl, ordered⟩
  | some modifier =>
    cases scope with
    | one a => exact .throw trivial
    | many as =>
      exact (applyModifierEnds r.driver as modifier).anyhow.bind fun kept narrowed =>
        .pure ⟨rfl, ordered.sublist narrowed.sublist⟩

theorem walkBelow {steps : List Step} {current : Option Definition} {scope : Scope Nat}
    (orderly : ∀ d ∈ r.registry.met current steps, d.Orderly p fits)
    (ordered : p.Ordered (p.isBelow · root = true) scope.toList) : Ends (r.walk current scope steps)
      (fun found => p.Ordered (p.isBelow · root = true) found.toList) fun _ => True := by
  induction steps generalizing current scope with
  | nil => exact .pure ordered
  | cons s rest ih =>
    rw [walkStep]
    obtain ⟨target, modifier⟩ := s
    cases target with
    | this =>
      refine (thisOrdered ordered).bind ?_
      rintro ⟨_, found⟩ ⟨rfl, sorted⟩
      exact ih orderly sorted
    | named name =>
      have within : p.Ordered (p.Within · root) scope.toList :=
        ⟨fun n inside => .inr (ordered.among n inside), ordered.order⟩
      exact (namedOrdered order shows orderly within).bind fun q good =>
        ih (fun d met => orderly d (good.2 met)) good.1

/- As long as there are only `this` steps, the root itself may be what has been reached. -/
theorem walkFromRoot {steps : List Step} {current : Option Definition} {scope : Scope Nat}
    (orderly : ∀ d ∈ r.registry.met current steps, d.Orderly p fits)
    (descends : ∃ s ∈ steps, s.isThis = false)
    (ordered : p.Ordered (p.Within · root) scope.toList) : Ends (r.walk current scope steps)
      (fun found => p.Ordered (p.isBelow · root = true) found.toList) fun _ => True := by
  induction steps generalizing current scope with
  | nil => simp at descends
  | cons s rest ih =>
    rw [walkStep]
    obtain ⟨target, modifier⟩ := s
    cases target with
    | this =>
      refine (thisOrdered ordered).bind ?_
      rintro ⟨_, found⟩ ⟨rfl, sorted⟩
      refine ih orderly ?_ sorted
      simpa [Step.isThis] using descends
    | named name =>
      exact (namedOrdered order shows orderly ordered).bind fun q good =>
        walkBelow order shows (fun d met => orderly d (good.2 met)) good.1

theorem resultsInOrder {steps : List Step}
    (orderly : ∀ d ∈ r.registry.met none steps, d.Orderly p fits)
    (descends : ∃ s ∈ steps, s.isThis = false) {s later : σ} {found : Scope Nat}
    (run : endOf (r.resolveSteps steps (.one root)) s = (.ok found, later)) :
    (∀ ns, found = .many ns → ns.Pairwise (· < ·)) ∧ ∀ n ∈ found.toList, p.isBelow n root = true := by
  have start : p.Ordered (p.Within · root) (Scope.one root).toList := .single (.inl rfl)
  have ordered := (walkFromRoot order shows orderly descends start).ok run
  refine ⟨?_, ordered.among⟩
  rintro ns rfl
  exact ordered.order.imp fun precedes => precedes.1

end Resolutions

section Pages

variable {α : Type}

theorem Answers.ends {ε β : Type} {x : ExceptT ε (Recorder α) β} {out : Except ε β} {calls : List (Call α)}
    (answers : Answers x out calls) : Ends x (fun b => out = .ok b) fun e => out = .error e := by
  constructor
  · intro s b later same
    exact congrArg Prod.fst ((answers s).symm.trans same)
  · intro s e later same
    exact congrArg Prod.fst ((answers s).symm.trans same)

theorem togetherOk {o : Outcomes α} {extent : Extent} {l : Locator} {as : List α} {founds : List (List α)}
    (ok : o.together extent l as = .ok founds) :
    List.Forall₂ (fun a found => o.find extent a l = .ok found) as founds := by
  rcases o.fanCases extent l as with all | ⟨e, first⟩
  · rw [o.togetherSucceeds extent l all] at ok
    exact mapMOk.mp ok
  · obtain ⟨seen, fails, _⟩ := o.togetherFails extent l first.failsWith
    rw [fails] at ok
    cases ok

theorem searchSeen {p : Page} {a : Nat} {l : Locator} {found : List Nat}
    (ok : p.search a l = .ok found) : found = p.seen (fun l n => p.isMatch l.value n) l a := by
  unfold Page.search at ok
  cases live : p.live a with
  | error e => simp [live, bind, Except.bind] at ok
  | ok node =>
    simp only [live, bind, Except.bind] at ok
    split at ok
    · cases ok
    · split at ok
      · cases ok
      · cases ok
        simp only [Page.matchingBelow, Page.matching, List.filter_filter, Page.seen, Locator.value,
          Bool.and_comm]

theorem outcomesFind {p : Page} {extent : Extent} {a : Nat} {l : Locator} {found : List Nat}
    (ok : p.outcomes.find extent a l = .ok found) :
    p.Finds (fun l n => p.isMatch l.value n) l a extent found := by
  cases extent with
  | all => exact searchSeen ok
  | first =>
    simp only [Outcomes.find, Page.outcomes] at ok
    cases search : p.search a l with
    | error e => simp [search, bind, Except.bind] at ok
    | ok all =>
      rw [search] at ok
      cases all with
      | nil => simp [Page.firstOf, bind, Except.bind] at ok
      | cons n rest =>
        cases ok
        exact ⟨n, by rw [← searchSeen search]; rfl, rfl⟩

theorem pageShows (p : Page) : p.outcomes.driver.Shows p fun l n => p.isMatch l.value n := by
  have finds (extent : Extent) (a : Nat) (l : Locator) := findAnswers p.outcomes extent l a
  constructor
  · intro a l
    refine (answeredAnswers (.find .first a l) (p.outcomes.first a l)).ends.weaken (fun n ok => ?_) fun _ _ => trivial
    exact outcomesFind (by simp [Outcomes.find, ok])
  · intro a l
    exact (finds .all a l).ends.weaken (fun found ok => outcomesFind ok) fun _ _ => trivial
  · intro extent as l
    refine (findTogetherAnswers p.outcomes extent l as).ends.weaken (fun founds ok => ?_) fun _ _ => trivial
    exact (togetherOk ok).imp fun a found one => outcomesFind one

end Pages

theorem matchInside {p : Page} {selector : String} {n : Nat} (fits : p.isMatch selector n = true) : n < p.size := by
  unfold Page.isMatch at fits
  cases node : p.nodes[n]? with
  | none => simp [node] at fits
  | some found => exact (List.getElem?_eq_some_iff.mp node).1

def listPage : Page where
  nodes := [⟨none, ["html"], "", false, 0, none, none⟩, ⟨some 0, ["ul"], "", false, 0, none, none⟩,
    ⟨some 1, ["li"], "", false, 7, none, none⟩, ⟨some 2, ["b"], "One", false, 0, none, none⟩,
    ⟨some 1, ["li"], "", false, 0, none, none⟩, ⟨some 4, ["b"], "Two", false, 0, none, none⟩,
    ⟨some 0, ["b"], "Three", false, 0, none, none⟩]
  scripts := []

theorem resultsInOrderList :
    listPage.InOrder ∧
    (∀ d ∈ shelf.met none [.named "item", .named "title"],
      d.Orderly listPage fun l n => listPage.isMatch l.value n) ∧
    endOf ((listPage.outcomes.resolver shelf (.css "html") .concurrent).resolveSteps
      [.named "item", .named "title"] (.one 0)) [] = (.ok (.many [3, 5]), [.find .all 0 (.find .css "li"),
        .find .first 2 (.find .css "b"), .find .first 4 (.find .css "b")]) ∧
    [3, 5].Pairwise (· < ·) ∧ ∀ n ∈ [3, 5], listPage.isBelow n 0 = true := by
  have order : listPage.InOrder := Page.inOrderOf (by decide) (by decide)
  have orderly : ∀ d ∈ shelf.met none [.named "item", .named "title"],
      d.Orderly listPage fun l n => listPage.isMatch l.value n := by
    have met : shelf.met none [.named "item", .named "title"] = [shelfItem, .element "title" (.css "b")] := rfl
    intro d inside
    have either : d = shelfItem ∨ d = .element "title" (.css "b") := by simpa [met] using inside
    rcases either with rfl | rfl
    · refine ⟨by decide, fun _ a n left right => ?_⟩
      have items : ∀ a < listPage.size, ∀ n < listPage.size, listPage.isMatch "li" a = true →
          listPage.isMatch "li" n = true → listPage.isBelow n a = false := by decide
      exact items a (matchInside left) n (matchInside right) left right
    · exact ⟨by decide, fun several => by contradiction⟩
  have run : endOf ((listPage.outcomes.resolver shelf (.css "html") .concurrent).resolveSteps
      [.named "item", .named "title"] (.one 0)) [] = (.ok (.many [3, 5]), [.find .all 0 (.find .css "li"),
        .find .first 2 (.find .css "b"), .find .first 4 (.find .css "b")]) := rfl
  have sorted := resultsInOrder order (pageShows listPage) orderly ⟨_, List.mem_cons_self, rfl⟩ run
  exact ⟨order, orderly, run, sorted.1 _ rfl, sorted.2⟩

end LocatorPath
