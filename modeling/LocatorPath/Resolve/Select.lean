import LocatorPath.Resolve.Error

/-! Narrowing a list of elements by their places or by their texts. -/
namespace LocatorPath

variable {α : Type}

def keepPlaces (keeps : Nat → Bool) : (place : Nat) → List α → List α
  | _, [] => []
  | n, a :: rest =>
    if keeps n then a :: keepPlaces keeps (n + 1) rest else keepPlaces keeps (n + 1) rest

def Position.member? (as : List α) : Position → Option α
  | first => as.head?
  | last => as.getLast?
  | nth n => if n = 0 then none else as[n.toNat - 1]?

/-- An exact place gives one element, or fails where there is none. A range gives a list, which may
be empty. -/
def selectIndex (as : List α) (spec : IndexSpec) : Except ResolveError (Scope α) :=
  match spec with
  | .exact p =>
    match p.member? as with
    | some a => .ok (.one a)
    | none => .error (.indexOutOfRange spec as.length)
  | .between low high =>
    .ok (.many (keepPlaces (fun n => low.toNat ≤ n && n ≤ high.toNat) 1 as))
  | .above bound => .ok (.many (keepPlaces (fun n => bound.toNat < n) 1 as))
  | .below bound => .ok (.many (keepPlaces (fun n => n < bound.toNat) 1 as))

variable {m : Type → Type} [Monad m]

def fromDriver {β : Type} (action : ExceptT DriverError m β) : ExceptT ResolveError m β :=
  ExceptT.adapt .driver action

def firstWithText (d : Driver m α) (f : TextFilter) : List α → ExceptT ResolveError m (Scope α)
  | [] => throw (.noMatch f)
  | a :: rest => do
    let text ← fromDriver (d.text a)
    if f.accepts text then return .one a else firstWithText d f rest

def allWithText (d : Driver m α) (f : TextFilter) : List α → ExceptT ResolveError m (List α)
  | [] => return []
  | a :: rest => do
    let text ← fromDriver (d.text a)
    let others ← allWithText d f rest
    return if f.accepts text then a :: others else others

def selectText (d : Driver m α) (f : TextFilter) (c : Cardinality) (as : List α) :
    ExceptT ResolveError m (Scope α) :=
  match c with
  | .first => firstWithText d f as
  | .all => do return .many (← allWithText d f as)

def applyModifier (d : Driver m α) (as : List α) : Modifier → ExceptT ResolveError m (Scope α)
  | .index spec => ExceptT.mk (pure (selectIndex as spec))
  | .text f c => selectText d f c as

end LocatorPath
