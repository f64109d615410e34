import LocatorPath.Driver

/-! Drivers whose answers depend on the question alone. They keep a record of what they are asked,
and each find takes a time, so that finds that run together can fail in any order. -/
namespace LocatorPath

inductive Call (α : Type) where
  | findRoot (l : Locator)
  | find (extent : Extent) (a : α) (l : Locator)
  | text (a : α)
  | script (source : String)
  deriving DecidableEq, Repr

structure Outcomes (α : Type) where
  root : Locator → Except DriverError α
  first : α → Locator → Except DriverError α
  all : α → Locator → Except DriverError (List α)
  text : α → Except DriverError String
  script : String → Except DriverError (Scope α)
  delay : Extent → α → Locator → Nat

abbrev Recorder (α : Type) := StateM (List (Call α))

def record {α : Type} (calls : List (Call α)) : Recorder α Unit := modify (· ++ calls)

def answered {α β : Type} (call : Call α) (outcome : Except DriverError β) :
    ExceptT DriverError (Recorder α) β := do
  record [call]
  liftExcept outcome
where
  liftExcept : Except DriverError β → ExceptT DriverError (Recorder α) β
    | .ok b => return b
    | .error e => throw e

def earliest {ε : Type} : List (Nat × ε) → Option (Nat × ε)
  | [] => none
  | f :: rest =>
    match earliest rest with
    | some g => if f.1 ≤ g.1 then some f else some g
    | none => some f

namespace Outcomes

variable {α : Type}

def find (o : Outcomes α) (extent : Extent) (a : α) (l : Locator) :
    Except DriverError (List α) :=
  match extent with
  | .first => do return [← o.first a l]
  | .all => o.all a l

def failsAtOnce? (o : Outcomes α) (extent : Extent) (l : Locator) (a : α) : Option DriverError :=
  match o.find extent a l with
  | .error e => if o.delay extent a l = 0 then some e else none
  | .ok _ => none

/-- The members whose finds are started together: all of them, or all up to the first that fails at
once, with its failure. -/
def started (o : Outcomes α) (extent : Extent) (l : Locator) :
    List α → List α × Option DriverError
  | [] => ([], none)
  | a :: rest =>
    match o.failsAtOnce? extent l a with
    | some e => ([a], some e)
    | none =>
      let (others, failure) := o.started extent l rest
      (a :: others, failure)

def failures (o : Outcomes α) (extent : Extent) (l : Locator) :
    List α → List (Nat × DriverError)
  | [] => []
  | a :: rest =>
    match o.find extent a l with
    | .error e => (o.delay extent a l, e) :: o.failures extent l rest
    | .ok _ => o.failures extent l rest

/-- How finds end that run together: with a failure at once, else with the earliest failure, else
with all answers in the order of the members. -/
def together (o : Outcomes α) (extent : Extent) (l : Locator) (as : List α) :
    Except DriverError (List (List α)) :=
  match (o.started extent l as).2 with
  | some e => .error e
  | none =>
    match earliest (o.failures extent l as) with
    | some (_, e) => .error e
    | none => as.mapM fun a => o.find extent a l

def driver (o : Outcomes α) : Driver (Recorder α) α where
  findRoot l := answered (.findRoot l) (o.root l)
  findFirst a l := answered (.find .first a l) (o.first a l)
  findAll a l := answered (.find .all a l) (o.all a l)
  findTogether extent as l := do
    record ((o.started extent l as).1.map fun a => .find extent a l)
    answered.liftExcept (o.together extent l as)
  text a := answered (.text a) (o.text a)
  runScript source := answered (.script source) (o.script source)

end Outcomes

end LocatorPath
