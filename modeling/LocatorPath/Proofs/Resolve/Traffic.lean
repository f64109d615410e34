import LocatorPath.Proofs.Resolve.Foresight
import LocatorPath.Proofs.Resolve.Reading

/-! What a resolution asks its driver. The calls of a walk are told step by step: those for the elements of a
definition, and behind them those for the texts of a filter. Where finds do not overtake each other, a call that fails
is the last one, and its failure is the result. -/
namespace LocatorPath

variable {α β γ ε : Type}

def Definition.calls (d : Definition) (scope : Scope α) : List (Call α) :=
  match d.selector.locator with
  | .script source => [.script source]
  | l => scope.toList.map fun a => .find d.extent a l

-- Texts are read from the front of a list and never twice, an index reads none.
def Reads (as : List α) : Option Modifier → List (Call α) → Prop
  | some (.text _ _), calls => calls <+: as.map .text
  | _, calls => calls = []

section Steps

variable (r : Resolver (Recorder α) α)

inductive StepTrace (current : Option Definition) (scope : Scope α) (s : Step) :
    Except ResolveError (Option Definition × Scope α) → List (Call α) → Prop
  | kept {out calls} (target : s.target = .this) (reads : Reads scope.toList s.modifier calls) :
      StepTrace current scope s out calls
  | refused {name e} (target : s.target = .named name) : StepTrace current scope s (.error e) []
  | lost {name d e calls} (target : s.target = .named name) (known : r.lookup current name = .ok d)
      (fails : Answers (r.materialize d scope) (.error e) calls) (started : calls <+: d.calls scope) :
      StepTrace current scope s (.error (.driver e)) calls
  | found {name d found out reading} (target : s.target = .named name) (known : r.lookup current name = .ok d)
      (finds : Answers (r.materialize d scope) (.ok found) (d.calls scope))
      (reads : Reads found.toList s.modifier reading) : StepTrace current scope s out (d.calls scope ++ reading)

inductive Trace : Option Definition → Scope α → List Step → Except ResolveError (Scope α) → List (Call α) → Prop
  | ends (current scope) : Trace current scope [] (.ok scope) []
  | stops {current scope s e calls} (fails : Answers (r.step current scope s) (.error e) calls)
      (trace : StepTrace r current scope s (.error e) calls) (rest) : Trace current scope (s :: rest) (.error e) calls
  | goes {current scope s next found calls rest out more}
      (completes : Answers (r.step current scope s) (.ok (next, found)) calls)
      (trace : StepTrace r current scope s (.ok (next, found)) calls) (later : Trace next found rest out more) :
      Trace current scope (s :: rest) out (calls ++ more)

inductive PathTrace (path : String) : Except ResolveError (Scope α) → List (Call α) → Prop
  | unread {e} (fails : parse path = .error e) : PathTrace path (.error (.ofParse e)) []
  | rootless {steps e} (read : parse path = .ok steps)
      (fails : Answers (r.driver.findRoot r.options.root.locator) (.error e) [.findRoot r.options.root.locator]) :
      PathTrace path (.error (.driver e)) [.findRoot r.options.root.locator]
  | walked {steps a out calls} (read : parse path = .ok steps)
      (found : Answers (r.driver.findRoot r.options.root.locator) (.ok a) [.findRoot r.options.root.locator])
      (trace : Trace r none (.one a) steps out calls) :
      PathTrace path out (.findRoot r.options.root.locator :: calls)

end Steps

def Outcomes.Fails (o : Outcomes α) (e : DriverError) : Call α → Prop
  | .findRoot l => o.root l = .error e
  | .find extent a l => o.find extent a l = .error e
  | .text a => o.text a = .error e
  | .script source => o.script source = .error e

def Outcomes.Clean (o : Outcomes α) (calls : List (Call α)) : Prop := ∀ c ∈ calls, ∀ e, ¬ o.Fails e c

inductive FailsLast (o : Outcomes α) (wrap : DriverError → ε) : Except ε β → List (Call α) → Prop
  | clean {out calls} (all : o.Clean calls) : FailsLast o wrap out calls
  | last {front c e} (before : o.Clean front) (fails : o.Fails e c) :
      FailsLast o wrap (.error (wrap e)) (front ++ [c])

/-! ## The calls of one step -/

section Calls

variable (o : Outcomes α)

theorem startedPrefix (extent : Extent) (l : Locator) (as : List α) : (o.started extent l as).1 <+: as := by
  induction as with
  | nil => exact List.prefix_rfl
  | cons a rest ih =>
    unfold Outcomes.started
    split
    · simp
    · exact (List.prefix_cons_inj a).mpr ih

theorem findsTrace (registry : Registry) (root : Selector) (fanOut : FanOut) (extent : Extent) (l : Locator)
    (as : List α) : ∃ out started, Answers ((o.resolver registry root fanOut).finds extent as l) out
      (started.map fun a => .find extent a l) ∧ started <+: as ∧ ∀ found, out = .ok found → started = as := by
  have part := startedPrefix o extent l as
  cases fanOut with
  | concurrent =>
    refine ⟨_, _, findTogetherAnswers o extent l as, part, ?_⟩
    intro found same
    rcases o.fanCases extent l as with all | ⟨e, first⟩
    · rw [(o.fanSucceeds extent l all).2.1]
    · obtain ⟨seen, fails, _⟩ := o.togetherFails extent l first.failsWith
      rw [fails] at same
      cases same
  | sequential =>
    refine ⟨_, _, findInTurnAnswers o extent l as, (o.triedStarted extent l as).trans part, ?_⟩
    intro found same
    rcases o.fanCases extent l as with all | ⟨e, first⟩
    · rw [(o.fanSucceeds extent l all).1]
    · rw [o.inTurnFails extent l first] at same
      cases same

theorem materializeTrace (registry : Registry) (root : Selector) (fanOut : FanOut) (d : Definition)
    (scope : Scope α) : ∃ out calls, Answers ((o.resolver registry root fanOut).materialize d scope) out calls ∧
      calls <+: d.calls scope ∧ ∀ found, out = .ok found → calls = d.calls scope := by
  unfold Definition.calls
  cases l : d.selector.locator with
  | script source =>
    simp only [Resolver.materialize, l]
    exact ⟨_, _, (answeredAnswers _ _).map _, List.prefix_rfl, fun _ _ => rfl⟩
  | find how value =>
    cases scope with
    | one a =>
      simp only [Resolver.materialize, l, Definition.extent, Scope.oneListed]
      cases d.isCollection with
      | true => exact ⟨_, _, (answeredAnswers _ _).map _, List.prefix_rfl, fun _ _ => rfl⟩
      | false => exact ⟨_, _, (answeredAnswers _ _).map _, List.prefix_rfl, fun _ _ => rfl⟩
    | many as =>
      rw [materializeMany _ l]
      obtain ⟨out, started, answers, part, all⟩ := findsTrace o registry root fanOut d.extent (.find how value) as
      refine ⟨_, _, answers.map _, part.map _, ?_⟩
      intro found same
      cases out with
      | error e => cases same
      | ok lists => simp [all lists rfl]

theorem applyModifierTrace (as : List α) (modifier : Modifier) :
    ∃ out calls, Answers (applyModifier o.driver as modifier) out calls ∧ Reads as (some modifier) calls := by
  cases modifier with
  | index spec =>
    refine ⟨selectIndex as spec, [], ?_, rfl⟩
    intro log
    rw [List.append_nil]
    rfl
  | text f c =>
    cases c with
    | first =>
      obtain ⟨out, calls, reads⟩ := readsFirstTotal o f as
      exact ⟨_, _, readsFirstAnswers reads, reads.inOrder⟩
    | all =>
      obtain ⟨out, calls, reads⟩ := readsAllTotal o f as
      exact ⟨_, _, readsAllAnswers reads, reads.inOrder⟩

theorem stepTrace (registry : Registry) (root : Selector) (fanOut : FanOut) (current : Option Definition)
    (scope : Scope α) (s : Step) :
    ∃ out calls, Answers ((o.resolver registry root fanOut).step current scope s) out calls ∧
      StepTrace (o.resolver registry root fanOut) current scope s out calls := by
  obtain ⟨target, modifier⟩ := s
  cases target with
  | this =>
    cases modifier with
    | none => exact ⟨_, _, pureAnswers _, .kept rfl rfl⟩
    | some modifier =>
      cases scope with
      | one a =>
        refine ⟨_, _, throwAnswers _, .kept rfl ?_⟩
        cases modifier with
        | index spec => rfl
        | text f c => exact List.nil_prefix
      | many as =>
        obtain ⟨out, calls, answers, reads⟩ := applyModifierTrace o as modifier
        exact ⟨_, _, answers.map _, .kept rfl reads⟩
  | named name =>
    unfold Resolver.step
    cases known : (o.resolver registry root fanOut).lookup current name with
    | error e => simpa only [known] using ⟨_, _, throwAnswers _, .refused rfl⟩
    | ok d =>
      dsimp only
      rw [known]
      dsimp only
      split
      · exact ⟨_, _, throwAnswers _, .refused rfl⟩
      · obtain ⟨out, calls, answers, part, all⟩ := materializeTrace o registry root fanOut d scope
        cases out with
        | error e => exact ⟨_, _, answers.driver.stop _, .lost rfl known answers part⟩
        | ok found =>
          have same := all found rfl
          subst same
          cases modifier with
          | none => exact ⟨_, _, answers.driver.bind (pureAnswers _), .found rfl known answers rfl⟩
          | some modifier =>
            obtain ⟨out, reading, reads, texts⟩ := applyModifierTrace o found.toList modifier
            exact ⟨_, _, answers.driver.bind (reads.map _), .found rfl known answers texts⟩

theorem walkTrace (registry : Registry) (root : Selector) (fanOut : FanOut) (steps : List Step)
    (current : Option Definition) (scope : Scope α) :
    ∃ out calls, Answers ((o.resolver registry root fanOut).walk current scope steps) out calls ∧
      Trace (o.resolver registry root fanOut) current scope steps out calls := by
  induction steps generalizing current scope with
  | nil => exact ⟨_, _, pureAnswers _, .ends current scope⟩
  | cons s rest ih =>
    rw [walkStep]
    obtain ⟨out, calls, answers, trace⟩ := stepTrace o registry root fanOut current scope s
    cases out with
    | error e => exact ⟨_, _, answers.stop _, .stops answers trace rest⟩
    | ok p =>
      obtain ⟨out, more, walked, later⟩ := ih p.1 p.2
      exact ⟨_, _, answers.bind walked, .goes answers trace later⟩

theorem resolveTrace (registry : Registry) (root : Selector) (fanOut : FanOut) (path : String) :
    ∃ out calls, Answers ((o.resolver registry root fanOut).resolve path) out calls ∧
      PathTrace (o.resolver registry root fanOut) path out calls := by
  cases read : parse path with
  | error e =>
    unfold Resolver.resolve
    rw [read]
    exact ⟨_, _, throwAnswers _, .unread read⟩
  | ok steps =>
    have one : Answers (o.driver.findRoot root.locator) (o.root root.locator) [.findRoot root.locator] :=
      answeredAnswers _ _
    cases found : o.root root.locator with
    | error e => exact ⟨_, _, rootlessAnswers o registry root fanOut read found, .rootless read (found ▸ one)⟩
    | ok a =>
      obtain ⟨out, calls, answers, trace⟩ := walkTrace o registry root fanOut steps none (.one a)
      exact ⟨_, _, rootedAnswers o registry root fanOut read found answers, .walked read (found ▸ one) trace⟩

theorem readTextsTrace (registry : Registry) (root : Selector) (fanOut : FanOut) (as : List α) :
    ∃ out calls, Answers ((o.resolver registry root fanOut).readTexts as) out calls ∧
      ∀ texts, out = .ok texts → calls = as.map .text := by
  induction as with
  | nil => exact ⟨_, _, pureAnswers _, fun _ _ => rfl⟩
  | cons a rest ih =>
    cases read : o.text a with
    | error e => exact ⟨_, _, failAnswers _ read, nofun⟩
    | ok text =>
      obtain ⟨out, calls, answers, whole⟩ := ih
      refine ⟨_, _, readAnswers read (answers.map _), ?_⟩
      intro texts same
      cases out with
      | error e => cases same
      | ok others => rw [whole others rfl, List.map_cons]

end Calls

/-! ## One find of the root -/

section Root

variable {r : Resolver (Recorder α) α}

theorem readsRootless {as : List α} {modifier : Option Modifier} {calls : List (Call α)}
    (reads : Reads as modifier calls) (l : Locator) : .findRoot l ∉ calls := by
  match modifier, reads with
  | none, reads =>
    rw [show calls = [] from reads]
    exact List.not_mem_nil
  | some (.index spec), reads =>
    rw [show calls = [] from reads]
    exact List.not_mem_nil
  | some (.text f c), reads =>
    intro inside
    obtain ⟨a, _, same⟩ := List.mem_map.mp (reads.subset inside)
    cases same

theorem callsRootless (d : Definition) (scope : Scope α) (l : Locator) : .findRoot l ∉ d.calls scope := by
  unfold Definition.calls
  split <;> simp

theorem StepTrace.rootless {current : Option Definition} {scope : Scope α} {s : Step}
    {out : Except ResolveError (Option Definition × Scope α)} {calls : List (Call α)}
    (trace : StepTrace r current scope s out calls) (l : Locator) : .findRoot l ∉ calls := by
  cases trace with
  | kept _ reads => exact readsRootless reads l
  | refused => exact List.not_mem_nil
  | lost _ _ _ started => exact fun inside => callsRootless _ scope l (started.subset inside)
  | found _ _ _ reads =>
    rw [List.mem_append, not_or]
    exact ⟨callsRootless _ scope l, readsRootless reads l⟩

theorem Trace.rootless {current : Option Definition} {scope : Scope α} {steps : List Step}
    {out : Except ResolveError (Scope α)} {calls : List (Call α)} (trace : Trace r current scope steps out calls)
    (l : Locator) : .findRoot l ∉ calls := by
  induction trace with
  | ends => exact List.not_mem_nil
  | stops _ trace => exact trace.rootless l
  | goes _ trace _ ih =>
    rw [List.mem_append, not_or]
    exact ⟨trace.rootless l, ih⟩

theorem PathTrace.once {path : String} {out : Except ResolveError (Scope α)} {calls : List (Call α)}
    (trace : PathTrace r path out calls) (l : Locator) : .findRoot l ∉ calls.tail := by
  cases trace with
  | unread => exact List.not_mem_nil
  | rootless => exact List.not_mem_nil
  | walked _ _ trace => exact trace.rootless l

end Root

/-! ## Calls that fail -/

section Failures

variable {o : Outcomes α} {wrap : DriverError → ε}

/-- With these answers the first call that fails ends a program. -/
def Careful (o : Outcomes α) (wrap : DriverError → ε) (x : ExceptT ε (Recorder α) β) : Prop :=
  ∃ out calls, Answers x out calls ∧ FailsLast o wrap out calls

theorem cleanNil : o.Clean [] := by
  intro c inside
  cases inside

theorem cleanAppend {front back : List (Call α)} (first : o.Clean front) (second : o.Clean back) :
    o.Clean (front ++ back) := by
  intro c inside
  rcases List.mem_append.mp inside with inside | inside
  · exact first c inside
  · exact second c inside

theorem FailsLast.ok {b : β} {calls : List (Call α)} (last : FailsLast o wrap (.ok b : Except ε β) calls) :
    o.Clean calls := by
  cases last with
  | clean all => exact all

theorem FailsLast.error {e : ε} {calls : List (Call α)} (last : FailsLast o wrap (.error e : Except ε β) calls) :
    FailsLast o wrap (.error e : Except ε γ) calls := by
  cases last with
  | clean all => exact .clean all
  | last before fails => exact .last before fails

theorem FailsLast.after {out : Except ε β} {front calls : List (Call α)} (clean : o.Clean front)
    (last : FailsLast o wrap out calls) : FailsLast o wrap out (front ++ calls) := by
  cases last with
  | clean all => exact .clean (cleanAppend clean all)
  | last before fails =>
    rw [← List.append_assoc]
    exact .last (cleanAppend clean before) fails

namespace Careful

theorem pure (b : β) : Careful o wrap (Pure.pure b : ExceptT ε (Recorder α) β) :=
  ⟨_, _, pureAnswers b, .clean cleanNil⟩

theorem throw (e : ε) : Careful o wrap (MonadExcept.throw e : ExceptT ε (Recorder α) β) :=
  ⟨_, _, throwAnswers e, .clean cleanNil⟩

theorem bind {x : ExceptT ε (Recorder α) β} {next : β → ExceptT ε (Recorder α) γ} (first : Careful o wrap x)
    (second : ∀ b, Careful o wrap (next b)) : Careful o wrap (x >>= next) := by
  obtain ⟨out, calls, answers, last⟩ := first
  cases out with
  | error e => exact ⟨_, _, answers.stop next, last.error⟩
  | ok b =>
    obtain ⟨out, more, rest, later⟩ := second b
    exact ⟨_, _, answers.bind rest, later.after last.ok⟩

theorem driver {x : ExceptT DriverError (Recorder α) β} (careful : Careful o id x) :
    Careful o .driver (fromDriver x) := by
  obtain ⟨out, calls, answers, last⟩ := careful
  refine ⟨_, _, answers.driver, ?_⟩
  cases last with
  | clean all => exact .clean all
  | last before fails => exact .last before fails

theorem answered {call : Call α} {out : Except DriverError β} (fails : ∀ e, o.Fails e call ↔ out = .error e) :
    Careful o id (LocatorPath.answered call out) := by
  refine ⟨_, _, answeredAnswers call out, ?_⟩
  cases out with
  | ok b =>
    refine .clean ?_
    intro c inside e bad
    rw [List.mem_singleton] at inside
    subst inside
    cases (fails e).mp bad
  | error e => exact .last cleanNil ((fails e).mpr rfl)

theorem run {x : ExceptT ε (Recorder α) β} {out : Except ε β} {calls : List (Call α)} (careful : Careful o wrap x)
    (run : runFrom [] x = (out, calls)) : FailsLast o wrap out calls := by
  obtain ⟨found, made, answers, last⟩ := careful
  rw [answers []] at run
  cases run
  exact last

end Careful

theorem Compare.careful {fan : Option (Fan α)} {x y : ExceptT ε (Recorder α) β} (compare : Compare wrap o fan x y)
    (instant : o.Instant) (careful : Careful o wrap y) : Careful o wrap x := by
  obtain ⟨out, calls, answers, last⟩ := careful
  cases compare with
  | same _ first second =>
    obtain ⟨rfl, rfl⟩ := answers.unique second
    exact ⟨_, _, first, last⟩
  | apart _ _ _ _ same left right =>
    obtain ⟨rfl, rfl⟩ := same instant
    obtain ⟨rfl, rfl⟩ := answers.unique right
    exact ⟨_, _, left, last⟩

def Careful.law (o : Outcomes α) : Law (Recorder α) where
  Holds := Careful o
  pure := Careful.pure
  throw := Careful.throw
  bind := Careful.bind
  driver := Careful.driver

theorem driverCareful (o : Outcomes α) : o.driver.Obeys (Careful.law o) where
  root _ := .answered fun _ => Iff.rfl
  first a l := by
    refine .answered fun e => ?_
    rw [Outcomes.Fails, findFirstMap]
    cases o.first a l <;> simp [Except.map]
  all _ _ := .answered fun _ => Iff.rfl
  text _ := .answered fun _ => Iff.rfl
  script _ := .answered fun _ => Iff.rfl

theorem resolverCareful (o : Outcomes α) (registry : Registry) (root : Selector) {fanOut : FanOut}
    (calm : fanOut = .sequential ∨ o.Instant) : (o.resolver registry root fanOut).Obeys (Careful.law o) where
  driver := driverCareful o
  together concurrent extent as l := by
    cases concurrent
    have instant := calm.resolve_left (by simp)
    exact (findsCompare o extent l as).careful instant ((driverCareful o).findInTurn extent l as)

end Failures

theorem runAnswers {x : ExceptT ε (Recorder α) β} {out other : Except ε β} {calls more : List (Call α)}
    (run : runFrom [] x = (out, calls)) (answers : Answers x other more) : other = out ∧ more = calls := by
  rw [answers []] at run
  exact ⟨congrArg Prod.fst run, congrArg Prod.snd run⟩

/- All that a resolution asks, and that the reading of the texts at its end adds one call for each of them. -/
theorem resolutionTraffic (o : Outcomes α) (registry : Registry) (root : Selector) (fanOut : FanOut) (path : String)
    {out : Except ResolveError (Scope α)} {calls : List (Call α)}
    (run : runFrom [] ((o.resolver registry root fanOut).resolve path) = (out, calls)) :
    PathTrace (o.resolver registry root fanOut) path out calls ∧
    (∀ l, .findRoot l ∉ calls.tail) ∧
    (∀ texts all, runFrom [] ((o.resolver registry root fanOut).textOf path) = (.ok texts, all) →
      ∃ found, out = .ok found ∧ all = calls ++ found.toList.map .text) ∧
    (fanOut = .sequential ∨ o.Instant → FailsLast o .driver out calls ∧
      ∀ texts all, runFrom [] ((o.resolver registry root fanOut).textOf path) = (texts, all) →
        FailsLast o .driver texts all) := by
  obtain ⟨found, made, answers, trace⟩ := resolveTrace o registry root fanOut path
  obtain ⟨rfl, rfl⟩ := runAnswers run answers
  refine ⟨trace, trace.once, ?_, ?_⟩
  · intro texts all read
    cases found with
    | error e =>
      obtain ⟨same, _⟩ := runAnswers read (answers.stop _)
      cases same
    | ok found =>
      obtain ⟨last, more, reading, whole⟩ := readTextsTrace o registry root fanOut found.toList
      obtain ⟨rfl, rfl⟩ := runAnswers read (answers.bind reading)
      exact ⟨found, rfl, by rw [whole texts rfl]⟩
  · intro calm
    have obeys := resolverCareful o registry root calm
    refine ⟨Careful.run (obeys.resolve path) run, ?_⟩
    intro texts all read
    exact Careful.run (obeys.textOf path) read

def untitledOutcomes : Outcomes Nat where
  root _ := .ok 0
  first a _ := if a = 2 then .error (.noSuchElement "b") else .ok (10 * a)
  all _ _ := .ok [1, 2, 3]
  text _ := .ok ""
  script _ := .ok (.many [])
  delay _ _ _ := 0

theorem resolutionTrafficUntitled :
    runFrom [] ((untitledOutcomes.resolver shelf (.css "html") .concurrent).resolve "item > title") =
      (.error (.driver (.noSuchElement "b")), [.findRoot (.find .css "html"), .find .all 0 (.find .css "li"),
        .find .first 1 (.find .css "b"), .find .first 2 (.find .css "b")]) ∧
    FailsLast untitledOutcomes ResolveError.driver (.error (.driver (.noSuchElement "b")) : Except _ (Scope Nat))
      [.findRoot (.find .css "html"), .find .all 0 (.find .css "li"), .find .first 1 (.find .css "b"),
        .find .first 2 (.find .css "b")] := by
  have read : parse "item > title" = .ok [.named "item", .named "title"] := rfl
  have run : runFrom [] ((untitledOutcomes.resolver shelf (.css "html") .concurrent).resolve "item > title") =
      (.error (.driver (.noSuchElement "b")), [.findRoot (.find .css "html"), .find .all 0 (.find .css "li"),
        .find .first 1 (.find .css "b"), .find .first 2 (.find .css "b")]) := by
    unfold Resolver.resolve
    rw [read]
    rfl
  have traffic := resolutionTraffic untitledOutcomes shelf (.css "html") .concurrent "item > title" run
  exact ⟨run, (traffic.2.2.2 (.inr fun _ _ _ => rfl)).1⟩

end LocatorPath
