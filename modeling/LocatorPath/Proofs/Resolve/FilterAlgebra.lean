import LocatorPath.Proofs.Resolve.Reading
import LocatorPath.Proofs.Resolve.ThisStep

/-! Text filters for all elements, one after the other. The first of them reads every text of the collection, so
whether it fails does not depend on the filter, and after it no text can fail any more. What is left at the end are the
elements that fit all filters, in whatever order these come. -/
namespace LocatorPath

variable {α : Type}

def Step.allIn (f : TextFilter) (target : Target) : Step := ⟨target, some (.text f .all)⟩

def Step.allOf (name : String) (f : TextFilter) (fs : List TextFilter) : List Step :=
  .allIn f (.named name) :: fs.map fun g => .allIn g .this

def ListedAlike (out other : Except ResolveError (Scope α)) : Prop :=
  (∃ as, out = .ok (.many as) ∧ other = .ok (.many as)) ∨ ∃ e, out = .error e ∧ other = .error e

structure Outcomes.LeadAlike (o : Outcomes α) (registry : Registry) (root : Selector) (fanOut : FanOut)
    (steps others : List Step) : Prop where
  held : ∀ scope, ListedAlike (o.resolved registry root fanOut steps scope).1
    (o.resolved registry root fanOut others scope).1
  paths : ∀ path other, parse path = .ok steps → parse other = .ok others →
    ListedAlike (runFrom [] ((o.resolver registry root fanOut).resolve path)).1
      (runFrom [] ((o.resolver registry root fanOut).resolve other)).1

section Texts

theorem partOfItself (cs : List Char) : isPartOf cs cs = true := by
  cases cs with
  | nil => rfl
  | cons c rest => simp [isPartOf, List.isPrefixOf_iff_prefix]

theorem equalContains {v text : String} (equal : (TextFilter.equals v).accepts text = true) :
    (TextFilter.contains v).accepts text = true := by
  obtain rfl : text = v := by simpa [TextFilter.accepts] using equal
  exact partOfItself text.toList

theorem fitsContains (o : Outcomes α) (v : String) (a : α) :
    (o.fits (.contains v) a && o.fits (.equals v) a) = o.fits (.equals v) a := by
  cases equal : o.fits (.equals v) a with
  | false => exact Bool.and_false _
  | true =>
    obtain ⟨text, read, accepts⟩ := fitsReadable equal
    rw [Bool.and_true, fitsRead read]
    exact equalContains accepts

end Texts

section Chains

variable (o : Outcomes α) (registry : Registry) (root : Selector) (fanOut : FanOut)

theorem thisReads (current : Option Definition) {f : TextFilter} {as : List α} {out : Except ResolveError (Scope α)}
    {calls : List (Call α)} (reads : ReadsAll o f as out calls) :
    Answers ((o.resolver registry root fanOut).step current (.many as) (.allIn f .this))
      (out.map fun kept => (current, kept)) calls := by
  rw [Step.allIn, thisStep]
  exact (readsAllAnswers reads).map _

theorem thisFilters (fs : List TextFilter) (current : Option Definition) {as : List α}
    (readable : ∀ a ∈ as, o.Readable a) : ∃ calls,
      Answers ((o.resolver registry root fanOut).walk current (.many as) (fs.map fun g => .allIn g .this))
        (.ok (.many (as.filter fun a => fs.all fun g => o.fits g a))) calls := by
  induction fs generalizing as with
  | nil =>
    have all : as.filter (fun a => ([] : List TextFilter).all fun g => o.fits g a) = as :=
      List.filter_eq_self.mpr fun _ _ => rfl
    exact ⟨[], all.symm ▸ pureAnswers (Scope.many as)⟩
  | cons f fs ih =>
    obtain ⟨calls, later⟩ := ih fun a inside => readable a (List.mem_of_mem_filter (p := o.fits f) inside)
    refine ⟨as.map .text ++ calls, ?_⟩
    rw [List.map_cons, walkStep]
    refine (thisReads o registry root fanOut current (.ends readable)).bind ?_
    simpa only [List.filter_filter, List.all_cons, Bool.and_comm] using later

theorem thisFails (f : TextFilter) (fs : List TextFilter) (current : Option Definition) {before after : List α} {a : α}
    {e : DriverError} (readable : ∀ b ∈ before, o.Readable b) (fails : o.text a = .error e) :
    Answers ((o.resolver registry root fanOut).walk current (.many (before ++ a :: after))
      ((f :: fs).map fun g => .allIn g .this)) (.error (.driver e)) ((before ++ [a]).map .text) := by
  rw [List.map_cons, walkStep]
  exact (thisReads o registry root fanOut current (.fails readable fails)).stop _

variable {before : List Step} {name : String} {d : Definition}
  (known : registry.definitionOf (registry.met none before).getLast? name = .ok d) (several : d.isCollection = true)

include known several

theorem collectionHeld (scope : Scope α) :
    Ends ((o.resolver registry root fanOut).pass none scope (before ++ [.named name])) (·.2.isMany = true)
      fun _ => True := by
  rw [passAppend]
  refine (passEnds _ none scope before).bind fun p last => ?_
  rw [Option.or_none] at last
  have here : registry.definitionOf p.1 name = .ok d := last ▸ known
  have held := (collectionMany (o.resolver registry root fanOut) several p.2).driver.anyhow
  rw [passStep, plainStep (o.resolver registry root fanOut) here, bind_assoc]
  exact held.bind fun all many => .pure many

theorem allOfThis (scope : Scope α) (f : TextFilter) (fs : List TextFilter) :
    (o.resolver registry root fanOut).walk none scope (before ++ Step.allOf name f fs) =
      (o.resolver registry root fanOut).pass none scope (before ++ [.named name]) >>= fun p =>
        (o.resolver registry root fanOut).walk p.1 p.2 ((f :: fs).map fun g => .allIn g .this) := by
  have front : before ++ Step.allOf name f fs =
      before ++ [.allIn f (.named name)] ++ fs.map fun g => .allIn g .this := by
    simp [Step.allOf]
  rw [front, walkAfter, Step.allIn, passNarrowed (o.resolver registry root fanOut) known several, ← walkAfter,
    ← walkAfter]
  simp [Step.allIn]

/- Either no filter gets anywhere, with one error for all of them, or filters keep just the elements that fit. -/
theorem allOfKept (scope : Scope α) :
    (∃ e, ∀ f fs, (o.resolved registry root fanOut (before ++ Step.allOf name f fs) scope).1 = .error e) ∨
      ∃ as : List α, ∀ f fs, (o.resolved registry root fanOut (before ++ Step.allOf name f fs) scope).1 =
        .ok (.many (as.filter fun a => (f :: fs).all fun g => o.fits g a)) := by
  have run {f : TextFilter} {fs : List TextFilter} {out : Except ResolveError (Scope α)} (calls : List (Call α))
      (answers : Answers ((o.resolver registry root fanOut).walk none scope (before ++ Step.allOf name f fs)) out
        calls) :
      (o.resolved registry root fanOut (before ++ Step.allOf name f fs) scope).1 = out :=
    congrArg Prod.fst ((resolvedAnswers o registry root).mpr answers)
  have definite := stepDefinite o registry root fanOut
  obtain ⟨out, calls, answers⟩ := passDefinite definite (before ++ [.named name]) none scope
  cases out with
  | error e =>
    refine .inl ⟨e, fun f fs => run calls ?_⟩
    rw [allOfThis o registry root fanOut known several]
    exact answers.stop _
  | ok p =>
    obtain ⟨current, all⟩ := p
    have many := (collectionHeld o registry root fanOut known several scope).ok (answers [])
    cases all with
    | one a => cases many
    | many as =>
      rcases firstWithout o.Readable as with readable | ⟨front, a, back, rfl, readable, stops⟩
      · refine .inr ⟨as, fun f fs => ?_⟩
        obtain ⟨more, later⟩ := thisFilters o registry root fanOut (f :: fs) current readable
        refine run (calls ++ more) ?_
        rw [allOfThis o registry root fanOut known several]
        exact answers.bind later
      · obtain ⟨e, fails⟩ := unreadable stops
        refine .inl ⟨.driver e, fun f fs => run (calls ++ (front ++ [a]).map .text) ?_⟩
        rw [allOfThis o registry root fanOut known several]
        exact answers.bind (thisFails o registry root fanOut f fs current readable fails)

end Chains

section Paths

variable {o : Outcomes α} {registry : Registry} {root : Selector} {fanOut : FanOut}

theorem pathLeads {path : String} {steps : List Step} (read : parse path = .ok steps) :
    (runFrom [] ((o.resolver registry root fanOut).resolve path)).1 = match o.root root.locator with
      | .ok a => (o.resolved registry root fanOut steps (.one a)).1
      | .error e => .error (.driver e) := by
  cases found : o.root root.locator with
  | error e => exact congrArg Prod.fst (rootlessAnswers o registry root fanOut read found [])
  | ok a =>
    obtain ⟨out, calls, answers⟩ := walkDefinite (stepDefinite o registry root fanOut) steps none (.one a)
    have ends : (o.resolved registry root fanOut steps (.one a)).1 = out := congrArg Prod.fst (answers [])
    dsimp only
    rw [ends]
    exact congrArg Prod.fst (rootedAnswers o registry root fanOut read found answers [])

theorem leadAlike {steps others : List Step} (held : ∀ scope,
    ListedAlike (o.resolved registry root fanOut steps scope).1 (o.resolved registry root fanOut others scope).1) :
    o.LeadAlike registry root fanOut steps others := by
  refine ⟨held, fun path other one two => ?_⟩
  rw [pathLeads one, pathLeads two]
  cases o.root root.locator with
  | error e => exact .inr ⟨_, rfl, rfl⟩
  | ok a => exact held (.one a)

variable {before : List Step} {name : String} {d : Definition}
  (known : registry.definitionOf (registry.met none before).getLast? name = .ok d) (several : d.isCollection = true)

include known several

theorem filtersAlike (f g : TextFilter) (fs gs : List TextFilter)
    (same : ∀ a, ((f :: fs).all fun h => o.fits h a) = (g :: gs).all fun h => o.fits h a) :
    o.LeadAlike registry root fanOut (before ++ Step.allOf name f fs) (before ++ Step.allOf name g gs) := by
  refine leadAlike fun scope => ?_
  rcases allOfKept o registry root fanOut known several scope with ⟨e, fails⟩ | ⟨as, keeps⟩
  · exact .inr ⟨e, fails f fs, fails g gs⟩
  · refine .inl ⟨_, keeps f fs, ?_⟩
    rw [keeps, funext same]

theorem allFiltersCombine :
    (∀ f g, o.LeadAlike registry root fanOut (before ++ [Step.allIn f (.named name), Step.allIn g .this])
      (before ++ [Step.allIn g (.named name), Step.allIn f .this])) ∧
    (∀ f, o.LeadAlike registry root fanOut (before ++ [Step.allIn f (.named name), Step.allIn f .this])
      (before ++ [Step.allIn f (.named name)])) ∧
    (∀ v, o.LeadAlike registry root fanOut
        (before ++ [Step.allIn (.contains v) (.named name), Step.allIn (.equals v) .this])
        (before ++ [Step.allIn (.equals v) (.named name)]) ∧
      o.LeadAlike registry root fanOut
        (before ++ [Step.allIn (.equals v) (.named name), Step.allIn (.contains v) .this])
        (before ++ [Step.allIn (.equals v) (.named name)])) ∧
    ∀ v scope,
      (∃ e, (o.resolved registry root fanOut (before ++ [Step.allIn (.equals v) (.named name)]) scope).1 = .error e ∧
        (o.resolved registry root fanOut (before ++ [Step.allIn (.contains v) (.named name)]) scope).1 = .error e) ∨
      ∃ equal among,
        (o.resolved registry root fanOut (before ++ [Step.allIn (.equals v) (.named name)]) scope).1 =
          .ok (.many equal) ∧
        (o.resolved registry root fanOut (before ++ [Step.allIn (.contains v) (.named name)]) scope).1 =
          .ok (.many among) ∧
        equal.Sublist among := by
  have absorbed (v : String) (a : α) := fitsContains o v a
  refine ⟨fun f g => ?_, fun f => ?_, fun v => ⟨?_, ?_⟩, fun v scope => ?_⟩
  · exact filtersAlike known several f g [g] [f] fun a => by simp [Bool.and_comm]
  · exact filtersAlike known several f f [f] [] fun a => by simp
  · refine filtersAlike known several (.contains v) (.equals v) [.equals v] [] fun a => ?_
    simpa using absorbed v a
  · refine filtersAlike known several (.equals v) (.equals v) [.contains v] [] fun a => ?_
    simpa [Bool.and_comm] using absorbed v a
  · rcases allOfKept o registry root fanOut known several scope with ⟨e, fails⟩ | ⟨as, keeps⟩
    · exact .inl ⟨e, fails _ [], fails _ []⟩
    · refine .inr ⟨_, _, keeps (.equals v) [], keeps (.contains v) [], List.monotone_filter_right as fun a equal => ?_⟩
      have both := absorbed v a
      simp_all

end Paths

def redOutcomes : Outcomes Nat where
  root _ := .ok 0
  first _ _ := .ok 0
  all _ _ := .ok [1, 2, 3]
  text a := .ok (if a = 1 then "Red" else if a = 2 then "Redder" else "Blue")
  script _ := .ok (.many [])
  delay _ _ _ := 0

theorem allFiltersCombineRed :
    shelf.definitionOf (shelf.met none []).getLast? "item" =
      .ok (.component "item" (.css "li") true [.element "title" (.css "b")]) ∧
    (Definition.component "item" (.css "li") true [.element "title" (.css "b")]).isCollection = true ∧
    parse "all #Red in item > all @Red in this" =
      .ok [.allIn (.contains "Red") (.named "item"), .allIn (.equals "Red") .this] ∧
    parse "all @Red in item" = .ok [.allIn (.equals "Red") (.named "item")] ∧
    ListedAlike
      (runFrom [] ((redOutcomes.resolver shelf (.css "html") .concurrent).resolve
        "all #Red in item > all @Red in this")).1
      (runFrom [] ((redOutcomes.resolver shelf (.css "html") .concurrent).resolve "all @Red in item")).1 ∧
    (redOutcomes.resolved shelf (.css "html") .concurrent
      [.allIn (.contains "Red") (.named "item"), .allIn (.equals "Red") .this] (.one 0)).1 = .ok (.many [1]) ∧
    (redOutcomes.resolved shelf (.css "html") .concurrent [.allIn (.contains "Red") (.named "item")] (.one 0)).1 =
      .ok (.many [1, 2]) := by
  have known : shelf.definitionOf (shelf.met none []).getLast? "item" =
      .ok (.component "item" (.css "li") true [.element "title" (.css "b")]) := rfl
  have both : parse "all #Red in item > all @Red in this" =
      .ok [.allIn (.contains "Red") (.named "item"), .allIn (.equals "Red") .this] := by decide +kernel
  have single : parse "all @Red in item" = .ok [.allIn (.equals "Red") (.named "item")] := by decide +kernel
  obtain ⟨_, _, absorbed, _⟩ :=
    @allFiltersCombine Nat redOutcomes shelf (.css "html") .concurrent [] "item" _ known rfl
  exact ⟨known, rfl, both, single, (absorbed "Red").1.paths _ _ both single, by decide +kernel, by decide +kernel⟩

end LocatorPath
