import LocatorPath.Resolve.Path

/-! How programs over a state can end, from whatever state they start. A driver may answer the same
question differently from time to time, so what holds of a resolution holds of every way it ends. Steps in
a row are programs one after the other. -/
namespace LocatorPath

variable {σ ε ε' α β γ : Type}

def endOf (x : ExceptT ε (StateM σ) β) (s : σ) : Except ε β × σ := Id.run (x.run.run s)

theorem endOfBind (x : ExceptT ε (StateM σ) β) (next : β → ExceptT ε (StateM σ) γ) (s : σ) :
    endOf (x >>= next) s =
      match endOf x s with
      | (.ok b, later) => endOf (next b) later
      | (.error e, later) => (.error e, later) := by
  unfold endOf ExceptT.run StateT.run Id.run
  simp only [bind, ExceptT.bind, ExceptT.mk, StateT.bind, ExceptT.bindCont]
  cases x s with
  | mk out later => cases out <;> rfl

@[simp] theorem endOfAdapt (f : ε → ε') (x : ExceptT ε (StateM σ) β) (s : σ) :
    endOf (ExceptT.adapt f x) s = ((endOf x s).1.mapError f, (endOf x s).2) := rfl

@[simp] theorem endOfDriver (x : ExceptT DriverError (StateM σ) β) (s : σ) :
    endOf (fromDriver x) s = ((endOf x s).1.mapError .driver, (endOf x s).2) := endOfAdapt ResolveError.driver x s

theorem endOfInj {x y : ExceptT ε (StateM σ) β} (same : ∀ s, endOf x s = endOf y s) : x = y :=
  funext same

/- Whatever state it starts in, a program ends with a good result or a bad error. -/
structure Ends (x : ExceptT ε (StateM σ) β) (good : β → Prop) (bad : ε → Prop) : Prop where
  ok : ∀ {s b later}, endOf x s = (.ok b, later) → good b
  error : ∀ {s e later}, endOf x s = (.error e, later) → bad e

namespace Ends

variable {good : β → Prop} {bad : ε → Prop}

theorem pure {b : β} (holds : good b) : Ends (Pure.pure b : ExceptT ε (StateM σ) β) good bad := by
  constructor
  · rintro s _ _ ⟨⟩
    exact holds
  · rintro s _ _ ⟨⟩

theorem throw {e : ε} (holds : bad e) :
    Ends (MonadExcept.throw e : ExceptT ε (StateM σ) β) good bad := by
  constructor
  · rintro s _ _ ⟨⟩
  · rintro s _ _ ⟨⟩
    exact holds

theorem any (x : ExceptT ε (StateM σ) β) : Ends x (fun _ => True) fun _ => True :=
  ⟨fun _ => trivial, fun _ => trivial⟩

theorem bind {x : ExceptT ε (StateM σ) β} {next : β → ExceptT ε (StateM σ) γ} {fine : γ → Prop}
    (first : Ends x good bad) (second : ∀ b, good b → Ends (next b) fine bad) :
    Ends (x >>= next) fine bad := by
  constructor
  · intro s c later same
    rw [endOfBind] at same
    cases one : endOf x s with
    | mk out between =>
      rw [one] at same
      cases out with
      | ok b => exact (second b (first.ok one)).ok same
      | error e => cases same
  · intro s e later same
    rw [endOfBind] at same
    cases one : endOf x s with
    | mk out between =>
      rw [one] at same
      cases out with
      | ok b => exact (second b (first.ok one)).error same
      | error e =>
        cases same
        exact first.error one

theorem weaken {x : ExceptT ε (StateM σ) β} {fine : β → Prop} {poor : ε → Prop}
    (ends : Ends x good bad) (better : ∀ b, good b → fine b) (worse : ∀ e, bad e → poor e) :
    Ends x fine poor :=
  ⟨fun same => better _ (ends.ok same), fun same => worse _ (ends.error same)⟩

theorem anyhow {x : ExceptT ε (StateM σ) β} (ends : Ends x good bad) : Ends x good fun _ => True :=
  ends.weaken (fun _ fine => fine) fun _ _ => trivial

theorem driver {x : ExceptT DriverError (StateM σ) β} {bad : DriverError → Prop}
    (ends : Ends x good bad) : Ends (fromDriver x) good fun e => ∃ cause, bad cause ∧ e = .driver cause := by
  constructor
  · intro s b later same
    rw [endOfDriver] at same
    cases one : endOf x s with
    | mk out between =>
      rw [one] at same
      cases out with
      | ok c =>
        cases same
        exact ends.ok one
      | error e => cases same
  · intro s e later same
    rw [endOfDriver] at same
    cases one : endOf x s with
    | mk out between =>
      rw [one] at same
      cases out with
      | ok c => cases same
      | error cause =>
        cases same
        exact ⟨cause, ends.error one, rfl⟩

theorem bindCongr {x : ExceptT ε (StateM σ) β} {f g : β → ExceptT ε (StateM σ) γ}
    (ends : Ends x good bad) (agree : ∀ b, good b → f b = g b) : x >>= f = x >>= g := by
  refine endOfInj fun s => ?_
  rw [endOfBind, endOfBind]
  cases one : endOf x s with
  | mk out between =>
    cases out with
    | ok b => exact congrArg (endOf · between) (agree b (ends.ok one))
    | error e => rfl

end Ends

def Resolver.pass {m : Type → Type} [Monad m] (r : Resolver m α) :
    Option Definition → Scope α → List Step → ExceptT ResolveError m (Option Definition × Scope α)
  | current, scope, [] => return (current, scope)
  | current, scope, s :: rest => do
    let (current, scope) ← r.step current scope s
    r.pass current scope rest

section Steps

variable (r : Resolver (StateM σ) α)

@[simp] theorem walkStep (current : Option Definition) (scope : Scope α) (s : Step) (rest : List Step) :
    r.walk current scope (s :: rest) = r.step current scope s >>= fun p => r.walk p.1 p.2 rest := rfl

@[simp] theorem passStep (current : Option Definition) (scope : Scope α) (s : Step) (rest : List Step) :
    r.pass current scope (s :: rest) = r.step current scope s >>= fun p => r.pass p.1 p.2 rest := rfl

theorem passAppend (current : Option Definition) (scope : Scope α) (xs ys : List Step) :
    r.pass current scope (xs ++ ys) = r.pass current scope xs >>= fun p => r.pass p.1 p.2 ys := by
  induction xs generalizing current scope with
  | nil => rfl
  | cons s rest ih =>
    simp [ih]

theorem walkAfter (current : Option Definition) (scope : Scope α) (xs ys : List Step) :
    r.walk current scope (xs ++ ys) = r.pass current scope xs >>= fun p => r.walk p.1 p.2 ys := by
  induction xs generalizing current scope with
  | nil => rfl
  | cons s rest ih =>
    simp [ih]

end Steps

end LocatorPath
