import LocatorPath.Path.Segment
import LocatorPath.Resolve.Select

/-! Resolving a path: from the root of the page, each step goes from the elements found so far to
those that its definition stands for. -/
namespace LocatorPath

inductive FanOut where
  | concurrent
  | sequential
  deriving DecidableEq, Repr

def FanOut.name : FanOut → String
  | concurrent => "concurrent"
  | sequential => "sequential"

def FanOut.ofName? : String → Option FanOut
  | "concurrent" => some concurrent
  | "sequential" => some sequential
  | _ => none

structure ResolveOptions where
  root : Selector := .css "html"
  fanOut : FanOut := .concurrent
  deriving DecidableEq, Repr

structure Resolver (m : Type → Type) (α : Type) where
  driver : Driver m α
  registry : Registry
  options : ResolveOptions := {}

namespace Resolver

variable {m : Type → Type} [Monad m] {α : Type}

/-- The definition of an alias: at the top of the tree, or below the definition that was resolved
last. Below one that is no component there is none. -/
def lookup (r : Resolver m α) (current : Option Definition) (name : String) :
    Except LookupError Definition :=
  match current with
  | none => r.registry.lookup name
  | some d =>
    match d.children? with
    | some children => children.lookup name
    | none => .error ⟨name, []⟩

/-- The elements that a definition stands for below the present ones. A script does not depend on
them and runs once. -/
def materialize (r : Resolver m α) (d : Definition) (scope : Scope α) :
    ExceptT DriverError m (Scope α) :=
  match d.selector.locator, scope with
  | .script source, _ => do
    let produced ← r.driver.runScript source
    -- what is no collection may still be a list, if the script returns one
    return if d.isCollection then .many produced.toList else produced
  | l, .one a =>
    if d.isCollection then do return .many (← r.driver.findAll a l)
    else do return .one (← r.driver.findFirst a l)
  | l, .many as => do
    let extent := if d.isCollection then .all else .first
    let found ← match r.options.fanOut with
      | .concurrent => r.driver.findTogether extent as l
      | .sequential => r.driver.findInTurn extent l as
    return .many found.flatten

def step (r : Resolver m α) (current : Option Definition) (scope : Scope α) (s : Step) :
    ExceptT ResolveError m (Option Definition × Scope α) :=
  match s.target with
  -- here the elements decide whether a modifier may stand, below it is the definition
  | .this =>
    match s.modifier, scope with
    | none, scope => return (current, scope)
    | some modifier, .many as => do return (current, ← applyModifier r.driver as modifier)
    | some _, .one _ => throw (.invalidModifier s.render .thisNotCollection)
  | .named name =>
    match r.lookup current name with
    | .error e => throw (.aliasNotFound e)
    | .ok d =>
      if s.modifier.isSome && !d.isCollection then
        throw (.invalidModifier s.render (.notCollection name))
      else do
        let found ← fromDriver (r.materialize d scope)
        match s.modifier with
        | none => return (some d, found)
        | some modifier => return (some d, ← applyModifier r.driver found.toList modifier)

def walk (r : Resolver m α) :
    Option Definition → Scope α → List Step → ExceptT ResolveError m (Scope α)
  | _, scope, [] => return scope
  | current, scope, s :: rest => do
    let (current, scope) ← r.step current scope s
    r.walk current scope rest

def resolveSteps (r : Resolver m α) (steps : List Step) (scope : Scope α) :
    ExceptT ResolveError m (Scope α) :=
  r.walk none scope steps

def resolveIn (r : Resolver m α) (path : String) (scope : Scope α) :
    ExceptT ResolveError m (Scope α) :=
  match parse path with
  | .error e => throw (.ofParse e)
  | .ok steps => r.resolveSteps steps scope

def resolve (r : Resolver m α) (path : String) : ExceptT ResolveError m (Scope α) :=
  match parse path with
  | .error e => throw (.ofParse e)
  | .ok steps => do
    let root ← fromDriver (r.driver.findRoot r.options.root.locator)
    r.resolveSteps steps (.one root)

def readTexts (r : Resolver m α) : List α → ExceptT ResolveError m (List String)
  | [] => return []
  | a :: rest => do
    let text ← fromDriver (r.driver.text a)
    return text :: (← r.readTexts rest)

def textOf (r : Resolver m α) (path : String) : ExceptT ResolveError m (List String) := do
  r.readTexts (← r.resolve path).toList

end Resolver

end LocatorPath
