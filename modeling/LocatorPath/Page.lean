import LocatorPath.Outcomes

/-! Pages held in memory: a tree of nodes that know which selectors match them. -/
namespace LocatorPath

structure PageNode where
  parent : Option Nat
  selectors : List String
  text : String
  stale : Bool
  delay : Nat
  findFailure : Option DriverError
  textFailure : Option DriverError
  deriving DecidableEq, Repr

structure Page where
  nodes : List PageNode
  scripts : List (String × Except DriverError (Scope Nat))

/-- Whether the parents of a node lead to another one, in no more steps than there are nodes. -/
def leadsTo (parent? : Nat → Option Nat) (ancestor : Nat) : (steps : Nat) → Nat → Bool
  | 0, _ => false
  | steps + 1, n =>
    match parent? n with
    | none => false
    | some p => p == ancestor || leadsTo parent? ancestor steps p

namespace Page

def size (p : Page) : Nat := p.nodes.length

def parent? (p : Page) (n : Nat) : Option Nat := p.nodes[n]? >>= PageNode.parent

def isBelow (p : Page) (n ancestor : Nat) : Bool := leadsTo p.parent? ancestor p.size n

def isMatch (p : Page) (selector : String) (n : Nat) : Bool :=
  p.nodes[n]?.any fun node => node.selectors.contains selector

def matching (p : Page) (selector : String) : List Nat :=
  (List.range p.size).filter (p.isMatch selector)

def matchingBelow (p : Page) (n : Nat) (selector : String) : List Nat :=
  (p.matching selector).filter (p.isBelow · n)

def live (p : Page) (n : Nat) : Except DriverError PageNode :=
  match p.nodes[n]? with
  | some node => if node.stale then .error (.staleElement ("node " ++ n.repr)) else .ok node
  | none => .error (.staleElement ("node " ++ n.repr))

def firstOf (l : Locator) : List Nat → Except DriverError Nat
  | n :: _ => .ok n
  | [] => .error (.noSuchElement l.render)

def search (p : Page) (n : Nat) (l : Locator) : Except DriverError (List Nat) := do
  let node ← p.live n
  match node.findFailure with
  | some e => .error e
  | none =>
    match l with
    | .script _ => .error (.unsupportedLocator "script")
    | .find _ selector => .ok (p.matchingBelow n selector)

def outcomes (p : Page) : Outcomes Nat where
  root
    | .script _ => .error (.unsupportedLocator "script")
    | .find u selector => firstOf (.find u selector) (p.matching selector)
  first n l := p.search n l >>= firstOf l
  all n l := p.search n l
  text n := do
    let node ← p.live n
    match node.textFailure with
    | some e => .error e
    | none => .ok node.text
  script source :=
    match p.scripts.lookup source with
    | some outcome => outcome
    | none => .error (.script ("unknown script: " ++ source))
  delay _ n _ :=
    match p.live n with
    | .ok node => node.delay
    | .error _ => 0

end Page

end LocatorPath
