import LocatorPath.Definition.Basic
import LocatorPath.Unicode.Character

/-! Registries: the definitions of one level of the tree, each under an alias of its own. They are
kept in ascending order of the aliases, so that equal contents make equal registries. Where an alias
is missing, those at a small edit distance are suggested: the fewest characters to insert, delete or
substitute. -/
namespace LocatorPath

inductive RegistryError where
  | unknownStrategy (name : String)
  | duplicateAlias (name : String)
  | emptyAlias
  deriving DecidableEq, Repr

def RegistryError.message : RegistryError → String
  | unknownStrategy name => "Selector type " ++ name ++ " is not defined"
  | duplicateAlias name => "Alias '" ++ name ++ "' is already defined in this scope"
  | emptyAlias => "Alias must not be empty"

def Selector.parse (strategy : Option String) (value : String) : Except RegistryError Selector :=
  match strategy with
  | none => .ok (.css value)
  | some name =>
    match Strategy.ofName? name with
    | some s => .ok ⟨s, value⟩
    | none => .error (.unknownStrategy name)

/-- From the distances of `xs` to all suffixes of a text, those of `x :: xs`, the longest suffix
first. -/
def distanceRow (x : Char) : (text : List Char) → (below : List Nat) → List Nat
  | [], below => [below.headD 0 + 1]
  | y :: text, below =>
    let row := distanceRow x text below.tail
    let keep := below.tail.headD 0
    let distance := if x = y then keep else 1 + min keep (min (below.headD 0) (row.headD 0))
    distance :: row

def distances : List Char → List Char → List Nat
  | [], text => (List.range (text.length + 1)).reverse
  | x :: xs, text => distanceRow x text (distances xs text)

def editDistance (xs ys : List Char) : Nat := (distances xs ys).headD 0

structure LookupError where
  name : String
  suggestions : List String
  deriving DecidableEq, Repr

def LookupError.message (e : LookupError) : String :=
  let hint := if e.suggestions.isEmpty then ""
    else "\nDid you mean:\n" ++ "\n".intercalate e.suggestions
  "There is no such element: '" ++ e.name ++ "'" ++ hint

structure Registry where
  definitions : List Definition
  rising : definitions.Pairwise fun d e => d.name < e.name := by decide
  named : ∀ d ∈ definitions, d.name.toList.all Unicode.isBlank = false := by decide
  deriving DecidableEq, Repr

/-- A component holds its children as a list: the type of definitions cannot hold a proof about its own
values. As a registry they are looked at again. -/
def Registry.ofList? (ds : List Definition) : Option Registry :=
  if proper : (ds.Pairwise fun d e => d.name < e.name) ∧
      ∀ d ∈ ds, d.name.toList.all Unicode.isBlank = false then
    some ⟨ds, proper.1, proper.2⟩
  else none

theorem Registry.ofListDefinitions (r : Registry) : ofList? r.definitions = some r :=
  dif_pos ⟨r.rising, r.named⟩

def Definition.nested? : Definition → Option (List Definition)
  | component _ _ _ children => some children
  | _ => none

def Definition.children? (d : Definition) : Option Registry := d.nested? >>= Registry.ofList?

@[simp] theorem Definition.childrenComponent (name : String) (s : Selector) (c : Bool) (r : Registry) :
    (component name s c r.definitions).children? = some r :=
  r.ofListDefinitions

structure Component where
  selector : Selector
  collection : Bool
  children : Registry
  deriving DecidableEq, Repr

namespace Registry

def empty : Registry where
  definitions := []

def isEmpty (r : Registry) : Bool := r.definitions.isEmpty

def size (r : Registry) : Nat := r.definitions.length

def aliases (r : Registry) : List String := r.definitions.map Definition.name

def get? (r : Registry) (name : String) : Option Definition :=
  r.definitions.find? fun d => d.name == name

def place (d : Definition) : List Definition → List Definition
  | [] => [d]
  | e :: rest => if d.name < e.name then d :: e :: rest else e :: place d rest

theorem placeMember {d e : Definition} {ds : List Definition} : e ∈ place d ds ↔ e = d ∨ e ∈ ds := by
  induction ds with
  | nil => simp [place]
  | cons first rest ih =>
    rw [place]
    split
    · simp
    · simp only [List.mem_cons, ih]
      exact or_left_comm

theorem placeRising {d : Definition} {ds : List Definition}
    (rising : ds.Pairwise fun d e => d.name < e.name) (fresh : ∀ e ∈ ds, e.name ≠ d.name) :
    (place d ds).Pairwise fun d e => d.name < e.name := by
  induction ds with
  | nil => exact List.pairwise_singleton _ _
  | cons e rest ih =>
    obtain ⟨first, rising⟩ := List.pairwise_cons.mp rising
    rw [place]
    split
    · next less =>
      refine List.pairwise_cons.mpr ⟨fun g inside => ?_, List.pairwise_cons.mpr ⟨first, rising⟩⟩
      rcases List.mem_cons.mp inside with rfl | later
      · exact less
      · exact String.lt_trans less (first g later)
    · next other =>
      have below : e.name < d.name := by
        refine String.not_le.mp fun above => fresh e List.mem_cons_self ?_
        exact String.le_antisymm (String.not_lt.mp other) above
      have others := ih rising fun g later => fresh g (List.mem_cons_of_mem e later)
      refine List.pairwise_cons.mpr ⟨fun g inside => ?_, others⟩
      rcases placeMember.mp inside with rfl | later
      · exact below
      · exact first g later

theorem getNone {r : Registry} {name : String} :
    r.get? name = none ↔ ∀ d ∈ r.definitions, d.name ≠ name := by
  simp [get?]

def add (r : Registry) (d : Definition) (plain : d.name.toList.all Unicode.isBlank = false)
    (fresh : r.get? d.name = none) : Registry where
  definitions := place d r.definitions
  rising := placeRising r.rising (getNone.mp fresh)
  named e inside := by
    rcases placeMember.mp inside with rfl | before
    · exact plain
    · exact r.named e before

def insert (r : Registry) (d : Definition) : Except RegistryError Registry :=
  if blank : d.name.toList.all Unicode.isBlank = true then .error .emptyAlias
  else if taken : (r.get? d.name).isSome = true then .error (.duplicateAlias d.name)
  else .ok (r.add d (Bool.eq_false_iff.mpr blank) (Option.not_isSome_iff_eq_none.mp taken))

def defineElement (r : Registry) (name : String) (selector : Selector) :
    Except RegistryError Registry :=
  r.insert (.element name selector)

def defineCollection (r : Registry) (name : String) (selector : Selector) :
    Except RegistryError Registry :=
  r.insert (.collection name selector)

def defineComponent (r : Registry) (name : String) (c : Component) :
    Except RegistryError Registry :=
  r.insert (.component name c.selector c.collection c.children.definitions)

def nearness (query : String) : Nat := max 2 (query.length / 3)

def distanceRatio (query name : String) : Nat × Nat :=
  (editDistance query.toList name.toList, max query.length name.length)

def ratioLe (p q : Nat × Nat) : Bool := p.1 * q.2 ≤ q.1 * p.2

/-- Registered aliases near a text: those with the smaller share of edits first, and in their own
order among equals. -/
def suggest (r : Registry) (query : String) : List String :=
  let near := r.aliases.filter fun a => editDistance query.toList a.toList ≤ nearness query
  near.mergeSort fun a b =>
    let p := distanceRatio query a
    let q := distanceRatio query b
    !ratioLe q p || ratioLe p q && a ≤ b

def lookup (r : Registry) (name : String) : Except LookupError Definition :=
  match r.get? name with
  | some d => .ok d
  | none => .error ⟨name, r.suggest name⟩

def below? (r : Registry) : List String → Option Registry
  | [] => some r
  | name :: rest => do (← (← r.get? name).children?).below? rest

end Registry

end LocatorPath
