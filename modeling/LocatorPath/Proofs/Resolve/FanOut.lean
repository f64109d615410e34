import LocatorPath.Proofs.Resolve.Run

/-! Finds below the members of a list, made together or in turn. Both ways agree on what is found.
Where some of them fail, those in turn end with the first failure in the order of the members, and
those together with the failure that is seen first. -/
namespace LocatorPath

variable {α β γ : Type}

structure Fan (α : Type) where
  extent : Extent
  locator : Locator
  members : List α

namespace Fan

variable (fan : Fan α) (o : Outcomes α)

def Succeeds : Prop := ∀ a ∈ fan.members, ∃ found, o.find fan.extent a fan.locator = .ok found

def FailsWith (e : DriverError) : Prop := ∃ a ∈ fan.members, o.find fan.extent a fan.locator = .error e

def FailsFirst (e : DriverError) : Prop :=
  ∃ before a after, fan.members = before ++ a :: after ∧
    (∀ b ∈ before, ∃ found, o.find fan.extent b fan.locator = .ok found) ∧
    o.find fan.extent a fan.locator = .error e

variable {fan o}

theorem FailsFirst.failsWith {e : DriverError} (first : fan.FailsFirst o e) : fan.FailsWith o e := by
  obtain ⟨before, a, after, members, _, fails⟩ := first
  exact ⟨a, by simp [members], fails⟩

end Fan

def Definition.fan? (d : Definition) (scope : Scope α) : Option (Fan α) :=
  match d.selector.locator, scope with
  | .script _, _ => none
  | _, .one _ => none
  | l, .many as => some ⟨if d.isCollection then .all else .first, l, as⟩

def Resolver.fan? {m : Type → Type} (r : Resolver m α) (current : Option Definition)
    (scope : Scope α) (s : Step) : Option (Fan α) :=
  match s.target with
  | .this => none
  | .named name =>
    match r.lookup current name with
    | .error _ => none
    | .ok d => if s.modifier.isSome && !d.isCollection then none else d.fan? scope

theorem firstWithout (p : α → Prop) (as : List α) :
    (∀ a ∈ as, p a) ∨ ∃ before a after, as = before ++ a :: after ∧ (∀ b ∈ before, p b) ∧ ¬ p a := by
  induction as with
  | nil => exact .inl (by simp)
  | cons a rest ih =>
    by_cases here : p a
    · rcases ih with all | ⟨before, b, after, rfl, front, stops⟩
      · exact .inl (List.forall_mem_cons.mpr ⟨here, all⟩)
      · exact .inr ⟨a :: before, b, after, rfl, List.forall_mem_cons.mpr ⟨here, front⟩, stops⟩
    · exact .inr ⟨[], a, rest, rfl, by simp, here⟩

namespace Outcomes

def Instant (o : Outcomes α) : Prop := ∀ extent a l, o.delay extent a l = 0

variable (o : Outcomes α) (extent : Extent) (l : Locator)

theorem fanCases (as : List α) :
    (Fan.mk extent l as).Succeeds o ∨ ∃ e, (Fan.mk extent l as).FailsFirst o e := by
  rcases firstWithout (fun a => ∃ found, o.find extent a l = .ok found) as with
    all | ⟨before, a, after, split, front, stops⟩
  · exact .inl all
  · cases found : o.find extent a l with
    | ok b => exact absurd ⟨b, found⟩ stops
    | error e => exact .inr ⟨e, before, a, after, split, front, found⟩

theorem fanSucceeds {as : List α} (all : (Fan.mk extent l as).Succeeds o) :
    o.tried extent l as = as ∧ o.started extent l as = (as, none) ∧ o.failures extent l as = [] := by
  induction as with
  | nil => exact ⟨rfl, rfl, rfl⟩
  | cons a rest ih =>
    obtain ⟨b, found⟩ := all a List.mem_cons_self
    obtain ⟨tried, started, failures⟩ := ih fun c inside => all c (List.mem_cons_of_mem a inside)
    have later : o.failsAtOnce? extent l a = none := by simp [failsAtOnce?, found]
    simp [Outcomes.tried, Outcomes.started, Outcomes.failures, found, later, tried, started, failures]

theorem togetherSucceeds {as : List α} (all : (Fan.mk extent l as).Succeeds o) :
    o.together extent l as = as.mapM fun a => o.find extent a l := by
  obtain ⟨_, started, failures⟩ := o.fanSucceeds extent l all
  rw [together, started, failures]
  rfl

theorem inTurnFails {as : List α} {e : DriverError} (first : (Fan.mk extent l as).FailsFirst o e) :
    (as.mapM fun a => o.find extent a l) = .error e := by
  obtain ⟨before, a, after, rfl, front, fails⟩ := first
  induction before with
  | nil =>
    rw [List.nil_append, List.mapM_cons, fails]
    rfl
  | cons b rest ih =>
    obtain ⟨found, ok⟩ := front b List.mem_cons_self
    have later := ih (fun c inside => front c (List.mem_cons_of_mem b inside)) fails
    rw [List.cons_append, List.mapM_cons, ok, later]
    rfl

theorem triedStarted (as : List α) : o.tried extent l as <+: (o.started extent l as).1 := by
  induction as with
  | nil => exact List.nil_prefix
  | cons a rest ih =>
    cases found : o.find extent a l with
    | ok b => simpa [tried, started, failsAtOnce?, found] using ih
    | error e =>
      by_cases soon : o.delay extent a l = 0
      · simp [tried, started, failsAtOnce?, found, soon]
      · simp [tried, started, failsAtOnce?, found, soon]

theorem startedFails {as : List α} {e : DriverError} (soon : (o.started extent l as).2 = some e) :
    (Fan.mk extent l as).FailsWith o e := by
  induction as with
  | nil => simp [started] at soon
  | cons a rest ih =>
    cases found : o.failsAtOnce? extent l a with
    | none =>
      simp only [started, found] at soon
      obtain ⟨b, inside, fails⟩ := ih soon
      exact ⟨b, List.mem_cons_of_mem a inside, fails⟩
    | some f =>
      simp only [started, found, Option.some.injEq] at soon
      subst soon
      refine ⟨a, List.mem_cons_self, ?_⟩
      unfold failsAtOnce? at found
      split at found
      · split at found <;> simp_all
      · contradiction

theorem failuresMember {as : List α} {t : Nat} {e : DriverError} :
    (t, e) ∈ o.failures extent l as ↔
      ∃ a ∈ as, o.find extent a l = .error e ∧ t = o.delay extent a l := by
  induction as with
  | nil => simp [failures]
  | cons a rest ih =>
    cases found : o.find extent a l with
    | ok b => simp [failures, found, ih]
    | error f =>
      simp only [failures, found, List.mem_cons, Prod.mk.injEq, ih, exists_eq_or_imp,
        Except.error.injEq]
      exact or_congr_left ⟨fun ⟨time, same⟩ => ⟨same.symm, time⟩,
        fun ⟨same, time⟩ => ⟨time, same.symm⟩⟩

theorem earliestMember {ε : Type} {fs : List (Nat × ε)} {f : Nat × ε}
    (found : earliest fs = some f) : f ∈ fs := by
  induction fs generalizing f with
  | nil => simp [earliest] at found
  | cons g rest ih =>
    unfold earliest at found
    split at found
    · split at found <;> grind
    · grind

theorem earliestNone {ε : Type} {fs : List (Nat × ε)} (none : earliest fs = none) : fs = [] := by
  cases fs with
  | nil => rfl
  | cons g rest =>
    unfold earliest at none
    split at none
    · split at none <;> contradiction
    · contradiction

theorem togetherFails {as : List α} {e : DriverError} (some : (Fan.mk extent l as).FailsWith o e) :
    ∃ seen, o.together extent l as = .error seen ∧ (Fan.mk extent l as).FailsWith o seen := by
  unfold together
  split
  · rename_i seen soon
    exact ⟨seen, rfl, o.startedFails extent l soon⟩
  · split
    · rename_i t seen found
      obtain ⟨a, inside, fails, _⟩ := (o.failuresMember extent l).mp (earliestMember found)
      exact ⟨seen, rfl, a, inside, fails⟩
    · rename_i none
      obtain ⟨a, inside, fails⟩ := some
      have member := (o.failuresMember extent l).mpr ⟨a, inside, fails, rfl⟩
      rw [earliestNone none] at member
      contradiction

theorem togetherInTurn {as : List α} {e : DriverError}
    (only : ∀ other, (Fan.mk extent l as).FailsWith o other → other = e) :
    o.together extent l as = as.mapM fun a => o.find extent a l := by
  rcases o.fanCases extent l as with all | ⟨first, fails⟩
  · exact o.togetherSucceeds extent l all
  · obtain ⟨seen, same, some⟩ := o.togetherFails extent l fails.failsWith
    rw [same, o.inTurnFails extent l fails, only seen some, only first fails.failsWith]

theorem instantFails {as : List α} {e : DriverError} (instant : o.Instant)
    (first : (Fan.mk extent l as).FailsFirst o e) :
    o.started extent l as = (o.tried extent l as, some e) := by
  obtain ⟨before, a, after, rfl, front, fails⟩ := first
  induction before with
  | nil => simp [started, tried, failsAtOnce?, fails, instant extent a l]
  | cons b rest ih =>
    obtain ⟨found, ok⟩ := front b List.mem_cons_self
    have later := ih (fun c inside => front c (List.mem_cons_of_mem b inside)) fails
    simp [started, tried, failsAtOnce?, ok, later]

end Outcomes

/- Two programs that differ in how the finds of one fan are made. -/
inductive Compare {ε : Type} (wrap : DriverError → ε) (o : Outcomes α) (fan : Option (Fan α))
    (together inTurn : ExceptT ε (Recorder α) β) : Prop
  | same {out calls} (succeeds : ∀ f, fan = some f → f.Succeeds o)
      (first : Answers together out calls) (second : Answers inTurn out calls)
  | apart {f seen first calls made} (found : fan = some f) (some : f.FailsWith o seen)
      (least : f.FailsFirst o first) (fewer : made <+: calls)
      (instant : o.Instant → seen = first ∧ made = calls)
      (left : Answers together (.error (wrap seen)) calls)
      (right : Answers inTurn (.error (wrap first)) made)

theorem Compare.bind {ε : Type} {wrap : DriverError → ε} {o : Outcomes α} {fan : Option (Fan α)}
    {x y : ExceptT ε (Recorder α) β} {next : β → ExceptT ε (Recorder α) γ}
    (compare : Compare wrap o fan x y) (definite : ∀ b, Definite (next b)) :
    Compare wrap o fan (x >>= next) (y >>= next) := by
  cases compare with
  | apart found some least fewer instant left right =>
    exact .apart found some least fewer instant (left.stop next) (right.stop next)
  | same succeeds first second =>
    rename_i out calls
    cases out with
    | error e => exact .same succeeds (first.stop next) (second.stop next)
    | ok b =>
      obtain ⟨last, more, rest⟩ := definite b
      exact .same succeeds (first.bind rest) (second.bind rest)

theorem Compare.driver {o : Outcomes α} {fan : Option (Fan α)}
    {x y : ExceptT DriverError (Recorder α) β} (compare : Compare id o fan x y) :
    Compare .driver o fan (fromDriver x) (fromDriver y) := by
  cases compare with
  | apart found some least fewer instant left right =>
    exact .apart found some least fewer instant left.driver right.driver
  | same succeeds first second => exact .same succeeds first.driver second.driver

theorem Compare.refl {ε : Type} {wrap : DriverError → ε} {o : Outcomes α}
    {x : ExceptT ε (Recorder α) β} (definite : Definite x) : Compare wrap o none x x := by
  obtain ⟨out, calls, answers⟩ := definite
  exact .same (by simp) answers answers

inductive Fault (o : Outcomes α) (fan : Option (Fan α)) :
    ResolveError × List (Call α) → ResolveError × List (Call α) → Prop
  | members {f seen first calls made} (found : fan = some f) (some : f.FailsWith o seen)
      (least : f.FailsFirst o first) (fewer : made <+: calls) :
      Fault o fan (.driver seen, calls) (.driver first, made)
  | other (succeeds : ∀ f, fan = some f → f.Succeeds o) (run) : Fault o fan run run

theorem Fault.after {o : Outcomes α} {fan : Option (Fan α)} {e e' : ResolveError}
    {calls made : List (Call α)} (fault : Fault o fan (e, calls) (e', made)) (log : List (Call α)) :
    Fault o fan (e, log ++ calls) (e', log ++ made) := by
  cases fault with
  | members found some least fewer =>
    exact .members found some least ((List.prefix_append_right_inj log).mpr fewer)
  | other succeeds => exact .other succeeds _

theorem Fault.fewer {o : Outcomes α} {fan : Option (Fan α)} {e e' : ResolveError}
    {calls made : List (Call α)} (fault : Fault o fan (e, calls) (e', made)) : made <+: calls := by
  cases fault with
  | members _ _ _ fewer => exact fewer
  | other => exact List.prefix_rfl

namespace Compare

variable {o : Outcomes α} {fan : Option (Fan α)} {x y : ExceptT ResolveError (Recorder α) β}

theorem definite (compare : Compare .driver o fan x y) : Definite x ∧ Definite y := by
  cases compare with
  | same _ first second => exact ⟨⟨_, _, first⟩, _, _, second⟩
  | apart _ _ _ _ _ left right => exact ⟨⟨_, _, left⟩, _, _, right⟩

theorem ok (compare : Compare .driver o fan x y) {b : β} {calls : List (Call α)} :
    Answers x (.ok b) calls ↔ Answers y (.ok b) calls := by
  cases compare with
  | same _ first second =>
    constructor
    · intro answers
      obtain ⟨rfl, rfl⟩ := answers.unique first
      exact second
    · intro answers
      obtain ⟨rfl, rfl⟩ := answers.unique second
      exact first
  | apart _ _ _ _ _ left right =>
    constructor
    · intro answers
      have same := (answers.unique left).1
      contradiction
    · intro answers
      have same := (answers.unique right).1
      contradiction

theorem error (compare : Compare .driver o fan x y) {e e' : ResolveError}
    {calls made : List (Call α)} (left : Answers x (.error e) calls)
    (right : Answers y (.error e') made) :
    Fault o fan (e, calls) (e', made) ∧ (o.Instant → e = e' ∧ calls = made) := by
  cases compare with
  | same succeeds first second =>
    obtain ⟨rfl, rfl⟩ := left.unique first
    obtain ⟨same, rfl⟩ := right.unique second
    cases same
    exact ⟨.other succeeds _, fun _ => ⟨rfl, rfl⟩⟩
  | apart found some least fewer instant one two =>
    obtain ⟨same, rfl⟩ := left.unique one
    cases same
    obtain ⟨same, rfl⟩ := right.unique two
    cases same
    refine ⟨.members found some least fewer, fun soon => ?_⟩
    obtain ⟨rfl, rfl⟩ := instant soon
    exact ⟨rfl, rfl⟩

end Compare

section Steps

variable (o : Outcomes α)

theorem findsCompare (extent : Extent) (l : Locator) (as : List α) :
    Compare id o (some ⟨extent, l, as⟩) (o.driver.findTogether extent as l)
      (o.driver.findInTurn extent l as) := by
  have together := findTogetherAnswers o extent l as
  have inTurn := findInTurnAnswers o extent l as
  rcases o.fanCases extent l as with all | ⟨e, first⟩
  · obtain ⟨tried, started, _⟩ := o.fanSucceeds extent l all
    rw [started, o.togetherSucceeds extent l all] at together
    rw [tried] at inTurn
    exact .same (by rintro f ⟨rfl⟩; exact all) together inTurn
  · obtain ⟨seen, same, some⟩ := o.togetherFails extent l first.failsWith
    rw [same] at together
    rw [o.inTurnFails extent l first] at inTurn
    refine .apart rfl some first ((o.triedStarted extent l as).map _) (fun instant => ?_) together
      inTurn
    have started := o.instantFails extent l instant first
    rw [Outcomes.together, started] at same
    rw [started]
    exact ⟨(Except.error.inj same).symm, rfl⟩

variable (registry : Registry) (root : Selector)

theorem materializeCompare (d : Definition) (scope : Scope α) :
    Compare id o (d.fan? scope) ((o.resolver registry root .concurrent).materialize d scope)
      ((o.resolver registry root .sequential).materialize d scope) := by
  unfold Resolver.materialize Definition.fan?
  generalize d.selector.locator = l
  cases l with
  | script source => exact .refl ((answeredDefinite _ _).bind fun _ => pureDefinite _)
  | find how value =>
    cases scope with
    | one a =>
      cases d.isCollection with
      | true => exact .refl ((answeredDefinite _ _).bind fun _ => pureDefinite _)
      | false => exact .refl ((answeredDefinite _ _).bind fun _ => pureDefinite _)
    | many as => exact (findsCompare o _ _ as).bind fun _ => pureDefinite _

theorem stepCompare (current : Option Definition) (scope : Scope α) (s : Step) :
    Compare .driver o ((o.resolver registry root .concurrent).fan? current scope s)
      ((o.resolver registry root .concurrent).step current scope s)
      ((o.resolver registry root .sequential).step current scope s) := by
  have same (name : String) : (o.resolver registry root .sequential).lookup current name =
      (o.resolver registry root .concurrent).lookup current name := rfl
  obtain ⟨target, modifier⟩ := s
  unfold Resolver.step Resolver.fan?
  cases target with
  | this =>
    cases modifier with
    | none => exact .refl (pureDefinite _)
    | some modifier =>
      cases scope with
      | one a => exact .refl (throwDefinite _)
      | many as => exact .refl ((applyModifierDefinite o as modifier).bind fun _ => pureDefinite _)
  | named name =>
    dsimp only
    rw [same]
    cases (o.resolver registry root .concurrent).lookup current name with
    | error e => exact .refl (throwDefinite _)
    | ok d =>
      dsimp only
      split
      · exact .refl (throwDefinite _)
      · refine (materializeCompare o registry root d scope).driver.bind fun found => ?_
        cases modifier with
        | none => exact pureDefinite _
        | some modifier => exact (applyModifierDefinite o _ modifier).bind fun _ => pureDefinite _

theorem stepDefinite (fanOut : FanOut) (current : Option Definition) (scope : Scope α) (s : Step) :
    Definite ((o.resolver registry root fanOut).step current scope s) :=
  (resolverDefinite o registry root fanOut).step current scope s

theorem reachesBoth {current last : Option Definition} {scope found : Scope α} {steps : List Step}
    {calls : List (Call α)} :
    Reaches (o.resolver registry root .concurrent) current scope steps last found calls ↔
      Reaches (o.resolver registry root .sequential) current scope steps last found calls := by
  constructor
  · intro reached
    induction reached with
    | here => exact .here _ _
    | step first _ ih => exact .step ((stepCompare o registry root _ _ _).ok.mp first) ih
  · intro reached
    induction reached with
    | here => exact .here _ _
    | step first _ ih => exact .step ((stepCompare o registry root _ _ _).ok.mpr first) ih

/- Both walks stop at the same step, because the steps before it have done the same in both. -/
theorem stopsBoth {current : Option Definition} {scope : Scope α} {steps : List Step}
    {e e' : ResolveError} {calls made : List (Call α)}
    (left : Answers ((o.resolver registry root .concurrent).walk current scope steps) (.error e) calls)
    (right : Answers ((o.resolver registry root .sequential).walk current scope steps) (.error e') made) :
    ∃ p, StopsAt (o.resolver registry root .concurrent) current scope steps p e calls ∧
      StopsAt (o.resolver registry root .sequential) current scope steps p e' made ∧
      Fault o ((o.resolver registry root .concurrent).fan? p.current p.scope p.step) (e, calls)
        (e', made) ∧ (o.Instant → e = e' ∧ calls = made) := by
  obtain ⟨p, stops⟩ := (walkStops (stepDefinite o registry root .concurrent)).mp left
  obtain ⟨more, fails, rfl⟩ := stops.fails
  have compare := stepCompare o registry root p.current p.scope p.step
  obtain ⟨out, later, answers⟩ := compare.definite.2
  cases out with
  | ok b =>
    have same := (fails.unique (compare.ok.mpr answers)).1
    contradiction
  | error other =>
    have stopsToo : StopsAt (o.resolver registry root .sequential) current scope steps p other
        (p.calls ++ later) :=
      ⟨stops.steps, (reachesBoth o registry root).mp stops.reached, later, answers, rfl⟩
    have walked := (walkStops (stepDefinite o registry root .sequential)).mpr ⟨p, stopsToo⟩
    obtain ⟨same, rfl⟩ := right.unique walked
    cases same
    obtain ⟨fault, instant⟩ := compare.error fails answers
    refine ⟨p, stops, stopsToo, fault.after p.calls, fun soon => ?_⟩
    obtain ⟨rfl, rfl⟩ := instant soon
    exact ⟨rfl, rfl⟩

end Steps

def Outcomes.resolved (o : Outcomes α) (registry : Registry) (root : Selector) (fanOut : FanOut)
    (steps : List Step) (scope : Scope α) : Except ResolveError (Scope α) × List (Call α) :=
  runFrom [] ((o.resolver registry root fanOut).resolveSteps steps scope)

section Runs

variable (o : Outcomes α) (registry : Registry) (root : Selector)

theorem resolvedAnswers {fanOut : FanOut} {steps : List Step} {scope : Scope α}
    {out : Except ResolveError (Scope α)} {calls : List (Call α)} :
    o.resolved registry root fanOut steps scope = (out, calls) ↔
      Answers ((o.resolver registry root fanOut).walk none scope steps) out calls :=
  (walkDefinite (stepDefinite o registry root fanOut) steps none scope).run

theorem resolvedOk {steps : List Step} {scope found : Scope α} {calls : List (Call α)} :
    o.resolved registry root .concurrent steps scope = (.ok found, calls) ↔
      o.resolved registry root .sequential steps scope = (.ok found, calls) := by
  rw [resolvedAnswers, resolvedAnswers, walkReaches (stepDefinite o registry root .concurrent),
    walkReaches (stepDefinite o registry root .sequential)]
  exact exists_congr fun last => reachesBoth o registry root

theorem fanOutAgrees (steps : List Step) (scope : Scope α) :
    (∀ found calls, o.resolved registry root .concurrent steps scope = (.ok found, calls) ↔
      o.resolved registry root .sequential steps scope = (.ok found, calls)) ∧
    (∀ e calls e' made, o.resolved registry root .concurrent steps scope = (.error e, calls) →
      o.resolved registry root .sequential steps scope = (.error e', made) →
      made <+: calls ∧ ∃ p, StopsAt (o.resolver registry root .concurrent) none scope steps p e calls ∧
        StopsAt (o.resolver registry root .sequential) none scope steps p e' made ∧
        Fault o ((o.resolver registry root .concurrent).fan? p.current p.scope p.step) (e, calls)
          (e', made)) ∧
    (o.Instant → o.resolved registry root .concurrent steps scope =
      o.resolved registry root .sequential steps scope) := by
  refine ⟨fun _ _ => resolvedOk o registry root, fun e calls e' made left right => ?_, fun instant => ?_⟩
  · obtain ⟨p, stops, stopsToo, fault, _⟩ := stopsBoth o registry root
      ((resolvedAnswers o registry root).mp left) ((resolvedAnswers o registry root).mp right)
    exact ⟨fault.fewer, p, stops, stopsToo, fault⟩
  · cases left : o.resolved registry root .concurrent steps scope with
    | mk out calls =>
      cases right : o.resolved registry root .sequential steps scope with
      | mk last made =>
        cases out with
        | ok found => rw [← right, (resolvedOk o registry root).mp left]
        | error e =>
          cases last with
          | ok found =>
            rw [(resolvedOk o registry root).mpr right] at left
            cases left
          | error e' =>
            obtain ⟨_, _, _, _, same⟩ := stopsBoth o registry root
              ((resolvedAnswers o registry root).mp left) ((resolvedAnswers o registry root).mp right)
            obtain ⟨rfl, rfl⟩ := same instant
            rfl

end Runs

def unevenOutcomes : Outcomes Nat where
  root _ := .ok 0
  first a _ := .error (if a = 1 then .timeout else .staleElement "gone")
  all _ _ := .ok []
  text _ := .ok ""
  script _ := .ok (.many [])
  delay _ a _ := if a = 1 then 5 else 0

def unevenRun (fanOut : FanOut) : Except ResolveError (Scope Nat) × List (Call Nat) :=
  unevenOutcomes.resolved {definitions := [.element "x" (.css "p")]} (.css "html") fanOut [.named "x"]
    (.many [1, 2])

theorem fanOutAgreesUneven :
    unevenRun .concurrent = (.error (.driver (.staleElement "gone")),
      [.find .first 1 (.find .css "p"), .find .first 2 (.find .css "p")]) ∧
    unevenRun .sequential = (.error (.driver .timeout), [.find .first 1 (.find .css "p")]) ∧
    [Call.find .first 1 (.find .css "p")] <+:
      [Call.find .first 1 (.find .css "p"), .find .first 2 (.find .css "p")] := by
  have left : unevenRun .concurrent = (.error (.driver (.staleElement "gone")),
      [.find .first 1 (.find .css "p"), .find .first 2 (.find .css "p")]) := rfl
  have right : unevenRun .sequential =
      (.error (.driver .timeout), [.find .first 1 (.find .css "p")]) := rfl
  have agrees := fanOutAgrees unevenOutcomes {definitions := [.element "x" (.css "p")]} (.css "html") [.named "x"]
    (.many [1, 2])
  exact ⟨left, right, (agrees.2.1 _ _ _ _ left right).1⟩

end LocatorPath
