import LocatorPath.Outcomes
import LocatorPath.Proofs.Resolve.Law
import LocatorPath.Proofs.Resolve.Outcome

/-! What programs that keep a record answer, and which calls they make. With fixed answers a step
always ends in the same way, so a walk either reaches its end or stops at one of its steps. -/
namespace LocatorPath

variable {α β γ ε : Type}

def runFrom (log : List (Call α)) (x : ExceptT ε (Recorder α) β) : Except ε β × List (Call α) :=
  Id.run (x.run.run log)

def Answers (x : ExceptT ε (Recorder α) β) (out : Except ε β) (calls : List (Call α)) : Prop :=
  ∀ log, runFrom log x = (out, log ++ calls)

def Definite (x : ExceptT ε (Recorder α) β) : Prop := ∃ out calls, Answers x out calls

theorem runFromBind (log : List (Call α)) (x : ExceptT ε (Recorder α) β)
    (next : β → ExceptT ε (Recorder α) γ) :
    runFrom log (x >>= next) =
      match runFrom log x with
      | (.ok b, later) => runFrom later (next b)
      | (.error e, later) => (.error e, later) := by
  have same : runFrom log x = endOf x log := rfl
  refine (endOfBind x next log).trans ?_
  rw [same]
  rcases endOf x log with ⟨_ | _, later⟩ <;> rfl

theorem pureAnswers (b : β) : Answers (pure b : ExceptT ε (Recorder α) β) (.ok b) [] := by
  intro log
  rw [List.append_nil]
  rfl

theorem throwAnswers (e : ε) : Answers (throw e : ExceptT ε (Recorder α) β) (.error e) [] := by
  intro log
  rw [List.append_nil]
  rfl

theorem liftAnswers (out : Except DriverError β) :
    Answers (answered.liftExcept out : ExceptT DriverError (Recorder α) β) out [] := by
  cases out with
  | ok b => exact pureAnswers b
  | error e => exact throwAnswers e

theorem recordAnswers (calls : List (Call α)) :
    Answers (record calls : ExceptT ε (Recorder α) Unit) (.ok ()) calls := fun _ => rfl

namespace Answers

theorem unique {x : ExceptT ε (Recorder α) β} {out other : Except ε β} {calls more : List (Call α)}
    (one : Answers x out calls) (two : Answers x other more) : out = other ∧ calls = more := by
  have same := (one []).symm.trans (two [])
  simpa using same

theorem bind {x : ExceptT ε (Recorder α) β} {next : β → ExceptT ε (Recorder α) γ} {b : β}
    {out : Except ε γ} {calls more : List (Call α)} (first : Answers x (.ok b) calls)
    (second : Answers (next b) out more) : Answers (x >>= next) out (calls ++ more) := by
  intro log
  rw [runFromBind, first log, ← List.append_assoc]
  exact second _

theorem stop {x : ExceptT ε (Recorder α) β} (next : β → ExceptT ε (Recorder α) γ) {e : ε}
    {calls : List (Call α)} (first : Answers x (.error e) calls) :
    Answers (x >>= next) (.error e) calls := by
  intro log
  rw [runFromBind, first log]

theorem map {x : ExceptT ε (Recorder α) β} {out : Except ε β} {calls : List (Call α)} (f : β → γ)
    (first : Answers x out calls) : Answers (x >>= fun b => pure (f b)) (out.map f) calls := by
  intro log
  rw [runFromBind, first log]
  cases out <;> rfl

theorem driver {x : ExceptT DriverError (Recorder α) β} {out : Except DriverError β}
    {calls : List (Call α)} (answers : Answers x out calls) :
    Answers (fromDriver x) (out.mapError .driver) calls := by
  intro log
  have run : runFrom log (fromDriver x) =
      ((runFrom log x).1.mapError .driver, (runFrom log x).2) := rfl
  rw [run, answers log]

end Answers

namespace Definite

theorem bind {x : ExceptT ε (Recorder α) β} {next : β → ExceptT ε (Recorder α) γ}
    (first : Definite x) (second : ∀ b, Definite (next b)) : Definite (x >>= next) := by
  obtain ⟨out, calls, answers⟩ := first
  cases out with
  | error e => exact ⟨_, _, answers.stop next⟩
  | ok b =>
    obtain ⟨last, more, rest⟩ := second b
    exact ⟨_, _, answers.bind rest⟩

theorem driver {x : ExceptT DriverError (Recorder α) β} (definite : Definite x) :
    Definite (fromDriver x) := by
  obtain ⟨out, calls, answers⟩ := definite
  exact ⟨_, _, answers.driver⟩

theorem run {x : ExceptT ε (Recorder α) β} {out : Except ε β} {calls : List (Call α)}
    (definite : Definite x) : runFrom [] x = (out, calls) ↔ Answers x out calls := by
  obtain ⟨found, made, answers⟩ := definite
  constructor
  · intro same
    have here := answers []
    rw [same, List.nil_append] at here
    cases here
    exact answers
  · intro other
    exact other []

theorem split {x : ExceptT ε (Recorder α) β} {next : β → ExceptT ε (Recorder α) γ}
    {out : Except ε γ} {calls : List (Call α)} (first : Definite x)
    (second : ∀ b, Definite (next b)) (answers : Answers (x >>= next) out calls) :
    (∃ b front back, Answers x (.ok b) front ∧ Answers (next b) out back ∧ calls = front ++ back) ∨
      ∃ e, Answers x (.error e) calls ∧ out = .error e := by
  obtain ⟨found, front, one⟩ := first
  cases found with
  | error e =>
    obtain ⟨rfl, rfl⟩ := answers.unique (one.stop next)
    exact .inr ⟨e, one, rfl⟩
  | ok b =>
    obtain ⟨last, back, two⟩ := second b
    obtain ⟨rfl, rfl⟩ := answers.unique (one.bind two)
    exact .inl ⟨b, front, back, one, two, rfl⟩

end Definite

theorem pureDefinite (b : β) : Definite (pure b : ExceptT ε (Recorder α) β) := ⟨_, _, pureAnswers b⟩

theorem throwDefinite (e : ε) : Definite (throw e : ExceptT ε (Recorder α) β) :=
  ⟨_, _, throwAnswers e⟩

theorem answeredAnswers (call : Call α) (out : Except DriverError β) :
    Answers (answered call out) out [call] :=
  (recordAnswers [call]).bind (liftAnswers out)

theorem answeredDefinite (call : Call α) (out : Except DriverError β) :
    Definite (answered call out) := ⟨_, _, answeredAnswers call out⟩

def Definite.law : Law (Recorder α) where
  Holds _ x := Definite x
  pure := pureDefinite
  throw := throwDefinite
  bind := Definite.bind
  driver := Definite.driver

def Outcomes.resolver (o : Outcomes α) (registry : Registry) (root : Selector) (fanOut : FanOut) :
    Resolver (Recorder α) α :=
  ⟨o.driver, registry, ⟨root, fanOut⟩⟩

section Modifiers

variable (o : Outcomes α)

theorem textAnswers (a : α) :
    Answers (fromDriver (o.driver.text a)) ((o.text a).mapError ResolveError.driver) [.text a] :=
  (answeredAnswers (.text a) (o.text a)).driver

theorem driverDefinite : o.driver.Obeys Definite.law where
  root _ := answeredDefinite _ _
  first _ _ := answeredDefinite _ _
  all _ _ := answeredDefinite _ _
  text _ := answeredDefinite _ _
  script _ := answeredDefinite _ _

theorem allWithTextDefinite (f : TextFilter) (as : List α) : Definite (allWithText o.driver f as) :=
  (driverDefinite o).allWithText f as

theorem applyModifierDefinite (as : List α) (modifier : Modifier) : Definite (applyModifier o.driver as modifier) :=
  (driverDefinite o).applyModifier as modifier

end Modifiers

section Finds

variable (o : Outcomes α) (extent : Extent) (l : Locator)

def Outcomes.tried : List α → List α
  | [] => []
  | a :: rest =>
    match o.find extent a l with
    | .ok _ => a :: Outcomes.tried rest
    | .error _ => [a]

theorem findFirstMap (a : α) : o.find .first a l = (o.first a l).map fun b => [b] := by
  rw [Outcomes.find]
  cases o.first a l <;> rfl

theorem findAnswers (a : α) :
    Answers (o.driver.find extent a l) (o.find extent a l) [.find extent a l] := by
  cases extent with
  | all => exact answeredAnswers _ _
  | first =>
    rw [findFirstMap]
    exact (answeredAnswers (.find .first a l) (o.first a l)).map fun b => [b]

theorem findInTurnAnswers (as : List α) :
    Answers (o.driver.findInTurn extent l as) (as.mapM fun a => o.find extent a l)
      ((o.tried extent l as).map fun a => .find extent a l) := by
  induction as with
  | nil => exact pureAnswers _
  | cons a rest ih =>
    have one := findAnswers o extent l a
    rw [List.mapM_cons, Driver.findInTurn, Outcomes.tried]
    cases found : o.find extent a l with
    | error e =>
      rw [found] at one
      exact one.stop _
    | ok b =>
      rw [found] at one
      have same : (rest.mapM fun a => o.find extent a l).map (b :: ·) =
          (do return b :: (← rest.mapM fun a => o.find extent a l)) := by
        cases rest.mapM fun a => o.find extent a l <;> rfl
      refine one.bind ?_
      change Answers _ (do return b :: (← rest.mapM fun a => o.find extent a l)) _
      rw [← same]
      exact ih.map (b :: ·)

theorem findTogetherAnswers (as : List α) :
    Answers (o.driver.findTogether extent as l) (o.together extent l as)
      ((o.started extent l as).1.map fun a => .find extent a l) := by
  rw [← List.append_nil (List.map _ _)]
  exact (recordAnswers _).bind (liftAnswers _)

end Finds

theorem resolverDefinite (o : Outcomes α) (registry : Registry) (root : Selector) (fanOut : FanOut) :
    (o.resolver registry root fanOut).Obeys Definite.law where
  driver := driverDefinite o
  together _ extent as l := ⟨_, _, findTogetherAnswers o extent l as⟩

inductive Reaches (r : Resolver (Recorder α) α) :
    Option Definition → Scope α → List Step → Option Definition → Scope α → List (Call α) → Prop
  | here (current scope) : Reaches r current scope [] current scope []
  | step {current scope s next found calls steps last here more}
      (first : Answers (r.step current scope s) (.ok (next, found)) calls)
      (rest : Reaches r next found steps last here more) :
      Reaches r current scope (s :: steps) last here (calls ++ more)

structure Place (α : Type) where
  before : List Step
  step : Step
  after : List Step
  current : Option Definition
  scope : Scope α
  calls : List (Call α)

structure StopsAt (r : Resolver (Recorder α) α) (current : Option Definition) (scope : Scope α)
    (steps : List Step) (p : Place α) (e : ResolveError) (calls : List (Call α)) : Prop where
  steps : steps = p.before ++ p.step :: p.after
  reached : Reaches r current scope p.before p.current p.scope p.calls
  fails : ∃ more, Answers (r.step p.current p.scope p.step) (.error e) more ∧ calls = p.calls ++ more

section Walk

variable {r : Resolver (Recorder α) α} (definite : ∀ current scope s, Definite (r.step current scope s))

include definite

theorem walkDefinite (steps : List Step) (current : Option Definition) (scope : Scope α) :
    Definite (r.walk current scope steps) := by
  induction steps generalizing current scope with
  | nil => exact pureDefinite _
  | cons s rest ih => exact (definite current scope s).bind fun p => ih p.1 p.2

theorem passDefinite (steps : List Step) (current : Option Definition) (scope : Scope α) :
    Definite (r.pass current scope steps) := by
  induction steps generalizing current scope with
  | nil => exact pureDefinite _
  | cons s rest ih => exact (definite current scope s).bind fun p => ih p.1 p.2

theorem passReaches {steps : List Step} {current last : Option Definition} {scope found : Scope α}
    {calls : List (Call α)} : Answers (r.pass current scope steps) (.ok (last, found)) calls ↔
      Reaches r current scope steps last found calls := by
  constructor
  · intro answers
    induction steps generalizing current scope calls with
    | nil =>
      obtain ⟨same, rfl⟩ := answers.unique (pureAnswers (current, scope))
      cases same
      exact .here _ _
    | cons s rest ih =>
      rw [passStep] at answers
      rcases (definite current scope s).split (fun p => passDefinite definite rest p.1 p.2) answers with
        ⟨p, front, back, first, later, rfl⟩ | ⟨e, _, same⟩
      · exact .step first (ih later)
      · cases same
  · intro reached
    induction reached with
    | here => exact pureAnswers _
    | step first _ ih => exact first.bind ih

theorem walkReaches {steps : List Step} {current : Option Definition} {scope found : Scope α}
    {calls : List (Call α)} : Answers (r.walk current scope steps) (.ok found) calls ↔
      ∃ last, Reaches r current scope steps last found calls := by
  have whole : r.walk current scope steps = r.pass current scope steps >>= fun p => pure p.2 := by
    have after := walkAfter r current scope steps []
    rwa [List.append_nil] at after
  rw [whole]
  constructor
  · intro answers
    rcases (passDefinite definite steps current scope).split (fun p => pureDefinite p.2) answers with
      ⟨⟨last, held⟩, front, back, passed, ends, rfl⟩ | ⟨e, _, same⟩
    · obtain ⟨same, rfl⟩ := ends.unique (pureAnswers held)
      cases same
      rw [List.append_nil]
      exact ⟨last, (passReaches definite).mp passed⟩
    · cases same
  · rintro ⟨last, reached⟩
    exact ((passReaches definite).mpr reached).map Prod.snd

/- A walk that fails does so at one step, after the steps before it have succeeded. -/
theorem walkStops {steps : List Step} {current : Option Definition} {scope : Scope α}
    {e : ResolveError} {calls : List (Call α)} :
    Answers (r.walk current scope steps) (.error e) calls ↔
      ∃ p, StopsAt r current scope steps p e calls := by
  constructor
  · intro answers
    induction steps generalizing current scope calls with
    | nil =>
      have same := (answers.unique (pureAnswers scope)).1
      contradiction
    | cons s rest ih =>
      rw [walkStep] at answers
      rcases (definite current scope s).split (fun p => walkDefinite definite rest p.1 p.2) answers with
        ⟨p, front, back, first, later, rfl⟩ | ⟨e, fails, same⟩
      · obtain ⟨place, steps, reached, more, fails, rfl⟩ := ih later
        refine ⟨{ place with before := s :: place.before, calls := front ++ place.calls },
          ?_, .step first reached, more, fails, ?_⟩
        · rw [steps]
          rfl
        · rw [List.append_assoc]
      · cases same
        exact ⟨⟨[], s, rest, current, scope, []⟩, rfl, .here current scope, calls, fails, rfl⟩
  · rintro ⟨⟨before, s, after, here, held, made⟩, rfl, reached, more, fails, rfl⟩
    dsimp only at reached fails
    induction reached with
    | here => exact fails.stop _
    | step first _ ih =>
      rw [List.append_assoc]
      exact first.bind (ih fails)

end Walk

section Rooted

variable (o : Outcomes α) (registry : Registry) (root : Selector) (fanOut : FanOut) {path : String} {steps : List Step}
  (read : parse path = .ok steps)

include read

theorem rootlessAnswers {e : DriverError} (fails : o.root root.locator = .error e) :
    Answers ((o.resolver registry root fanOut).resolve path) (.error (.driver e)) [.findRoot root.locator] := by
  have one : Answers (o.driver.findRoot root.locator) (.error e) [.findRoot root.locator] :=
    fails ▸ answeredAnswers _ _
  unfold Resolver.resolve
  rw [read]
  exact one.driver.stop _

theorem rootedAnswers {a : α} {out : Except ResolveError (Scope α)} {calls : List (Call α)}
    (found : o.root root.locator = .ok a)
    (walked : Answers ((o.resolver registry root fanOut).walk none (.one a) steps) out calls) :
    Answers ((o.resolver registry root fanOut).resolve path) out (.findRoot root.locator :: calls) := by
  have one : Answers (o.driver.findRoot root.locator) (.ok a) [.findRoot root.locator] :=
    found ▸ answeredAnswers _ _
  unfold Resolver.resolve
  rw [read]
  exact one.driver.bind walked

end Rooted

end LocatorPath
