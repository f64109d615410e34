import Mathlib.Data.List.Nodup
import LocatorPath.Definition.Registry
import LocatorPath.Proofs.Unicode.ByteOrder
import LocatorPath.Proofs.Unicode.Trim

/-! What a registry holds after some calls: of the definitions that were offered under one alias, the first.
A call that fails changes nothing, so what the registry holds can be told from the calls alone. -/
namespace LocatorPath

open Unicode (trim)

inductive Declaration where
  | insert (d : Definition)
  | element (name : String) (selector : Selector)
  | collection (name : String) (selector : Selector)
  | component (name : String) (c : Component)

namespace Declaration

def definition : Declaration → Definition
  | insert d => d
  | element name s => .element name s
  | collection name s => .collection name s
  | component name c => .component name c.selector c.collection c.children.definitions

def name (c : Declaration) : String := c.definition.name

end Declaration

namespace Registry

def declare (r : Registry) : Declaration → Except RegistryError Registry
  | .insert d => r.insert d
  | .element name s => r.defineElement name s
  | .collection name s => r.defineCollection name s
  | .component name c => r.defineComponent name c

def next (r : Registry) (c : Declaration) : Registry :=
  match r.declare c with
  | .ok later => later
  | .error _ => r

def after (calls : List Declaration) : Registry := calls.foldl next empty

theorem afterNext (calls : List Declaration) (c : Declaration) : after (calls ++ [c]) = (after calls).next c := by
  rw [after, List.foldl_append]
  rfl

section Insert

variable {r later : Registry} {d : Definition} {c : Declaration} {name : String}

theorem declareInserts (r : Registry) (c : Declaration) : r.declare c = r.insert c.definition := by
  cases c <;> rfl

theorem declareCases (r : Registry) (c : Declaration) :
    trim c.name.toList = [] ∧ r.declare c = .error .emptyAlias ∨
      trim c.name.toList ≠ [] ∧ ((r.get? c.name).isSome = true ∧ r.declare c = .error (.duplicateAlias c.name) ∨
        r.get? c.name = none ∧ ∃ later, r.declare c = .ok later ∧
          later.definitions = place c.definition r.definitions) := by
  have blank : trim c.name.toList = [] ↔ c.name.toList.all Unicode.isBlank = true := by
    rw [Unicode.trimNone, List.all_eq_true]
    rfl
  rw [declareInserts, insert, Ne, blank]
  change c.name.toList.all _ = true ∧ _ ∨ _
  split
  · next all => exact .inl ⟨all, rfl⟩
  · next plain =>
    refine .inr ⟨plain, ?_⟩
    split
    · next taken => exact .inl ⟨taken, rfl⟩
    · next fresh => exact .inr ⟨Option.not_isSome_iff_eq_none.mp fresh, _, rfl, rfl⟩

theorem findMember {ds : List Definition} (distinct : (ds.map Definition.name).Nodup) :
    (ds.find? fun e => e.name == name) = some d ↔ d ∈ ds ∧ d.name = name := by
  refine ⟨fun found => ⟨List.mem_of_find?_eq_some found, by simpa using List.find?_some found⟩, ?_⟩
  rintro ⟨inside, rfl⟩
  cases found : ds.find? fun e => e.name == d.name with
  | none => simpa using List.find?_eq_none.mp found d inside
  | some e =>
    have same : e.name = d.name := by simpa using List.find?_some found
    rw [List.inj_on_of_nodup_map distinct (List.mem_of_find?_eq_some found) inside same]

theorem distinct (r : Registry) : r.aliases.Nodup := List.pairwise_map.mpr (r.rising.imp String.ne_of_lt)

theorem getMember : r.get? name = some d ↔ d ∈ r.definitions ∧ d.name = name := findMember r.distinct

theorem aliasFound (r : Registry) (name : String) : name ∈ r.aliases ↔ (r.get? name).isSome = true := by
  rw [aliases, List.mem_map, ← Option.ne_none_iff_isSome, Ne, getNone]
  simp

theorem plain (r : Registry) : ∀ d ∈ r.definitions, trim d.name.toList ≠ [] := fun d inside blank => by
  have all : d.name.toList.all Unicode.isBlank = true := List.all_eq_true.mpr (Unicode.trimNone.mp blank)
  rw [r.named d inside] at all
  cases all

theorem ext (same : ∀ name, r.get? name = later.get? name) : r = later := by
  have nodup (r : Registry) : r.definitions.Nodup :=
    r.rising.imp fun less equal => String.ne_of_lt less (congrArg Definition.name equal)
  have perm : r.definitions.Perm later.definitions := by
    refine (List.perm_ext_iff_of_nodup (nodup r) (nodup later)).mpr fun d => ?_
    have own := same d.name
    constructor
    · intro inside
      exact (getMember.mp (own.symm.trans (getMember.mpr ⟨inside, rfl⟩))).1
    · intro inside
      exact (getMember.mp (own.trans (getMember.mpr ⟨inside, rfl⟩))).1
  have equal : r.definitions = later.definitions :=
    perm.eq_of_pairwise (fun _ _ _ _ below above => absurd above (String.lt_asymm below)) r.rising later.rising
  cases r
  cases later
  cases equal
  rfl

theorem getNext (r : Registry) (c : Declaration) (name : String) : (r.next c).get? name =
    (r.get? name).or (if c.name = name ∧ trim name.toList ≠ [] then some c.definition else none) := by
  rcases declareCases r c with ⟨blank, stops⟩ | ⟨plain, ⟨taken, stops⟩ | ⟨fresh, later, goes, placed⟩⟩
  · have other : ¬(c.name = name ∧ trim name.toList ≠ []) := by
      rintro ⟨rfl, plain⟩
      exact plain blank
    simp [next, stops, other]
  · by_cases own : c.name = name
    · obtain ⟨d, found⟩ := Option.isSome_iff_exists.mp taken
      rw [own] at found
      simp [next, stops, found]
    · simp [next, stops, own]
  · have here : c.definition.name = c.name := rfl
    rw [next, goes]
    refine Option.ext fun d => ?_
    rw [getMember, placed, placeMember, Option.or_eq_some_iff, getMember, getNone]
    by_cases own : c.name = name
    · subst own
      simp only [plain, ne_eq, not_false_eq_true, and_self, if_true, Option.some.injEq]
      have absent := getNone.mp fresh
      constructor
      · rintro ⟨rfl | inside, same⟩
        · exact .inr ⟨absent, rfl⟩
        · exact absurd same (absent d inside)
      · rintro (⟨inside, same⟩ | ⟨_, rfl⟩)
        · exact absurd same (absent d inside)
        · exact ⟨.inl rfl, rfl⟩
    · simp only [own, false_and, if_false, reduceCtorEq, and_false, or_false]
      refine and_congr_left fun same => or_iff_right ?_
      rintro rfl
      exact own same

end Insert

section Histories

variable {calls : List Declaration} {c : Declaration} {name : String}

def firstOffered (calls : List Declaration) (name : String) : Option Definition :=
  if trim name.toList = [] then none else (calls.map Declaration.definition).find? fun d => d.name == name

theorem afterGet (calls : List Declaration) (name : String) : (after calls).get? name = firstOffered calls name := by
  induction calls using List.reverseRecOn with
  | nil => simp [after, empty, get?, firstOffered]
  | append_singleton before c ih =>
    rw [afterNext, getNext, ih, firstOffered, firstOffered]
    by_cases blank : trim name.toList = []
    · simp [blank]
    · simp [blank, List.find?_append, Declaration.name, List.find?_singleton]

def Accepted (calls : List Declaration) (name : String) : Prop :=
  ∃ front c back r, calls = front ++ c :: back ∧ c.name = name ∧ (after front).declare c = .ok r

theorem acceptedFound (calls : List Declaration) (name : String) :
    Accepted calls name ↔ ((after calls).get? name).isSome = true := by
  constructor
  · rintro ⟨front, c, back, r, rfl, rfl, accepted⟩
    rcases declareCases (after front) c with ⟨_, stops⟩ | ⟨plain, ⟨_, stops⟩ | _⟩
    · rw [accepted] at stops
      cases stops
    · rw [accepted] at stops
      cases stops
    · rw [afterGet, firstOffered, if_neg plain, List.find?_isSome]
      exact ⟨c.definition, by simp, beq_self_eq_true _⟩
  · -- the call that was accepted is among the earlier ones if something was found before, else it is the last one
    induction calls using List.reverseRecOn with
    | nil => exact fun found => absurd found (by simp [after, empty, get?])
    | append_singleton before c ih =>
      intro found
      cases earlier : (after before).get? name with
      | some d =>
        obtain ⟨front, e, back, r, rfl, named, accepted⟩ := ih (by rw [earlier]; rfl)
        exact ⟨front, e, back ++ [c], r, by simp, named, accepted⟩
      | none =>
        rw [afterNext, getNext, earlier, Option.none_or] at found
        split at found
        · next own =>
          obtain ⟨rfl, plain⟩ := own
          rcases declareCases (after before) c with ⟨blank, _⟩ | ⟨_, ⟨taken, _⟩ | ⟨_, _, goes, _⟩⟩
          · exact absurd blank plain
          · rw [earlier] at taken
            cases taken
          · exact ⟨before, c, [], _, rfl, rfl, goes⟩
        · cases found

end Histories

/-! ## Registries within registries -/

/-- A registry, those of its components, and so on. -/
inductive Contains : Registry → Registry → Prop
  | self (r : Registry) : Contains r r
  | deeper {r sub children : Registry} {d : Definition} (inside : d ∈ r.definitions)
      (below : d.children? = some children) (rest : Contains children sub) : Contains r sub

inductive Built : Declaration → Prop
  | plain {c : Declaration} (leaf : c.definition.nested? = none) : Built c
  | component {c : Declaration} (calls : List Declaration)
      (below : c.definition.nested? = some (after calls).definitions) (built : ∀ e ∈ calls, Built e) : Built c

theorem afterAmong {calls : List Declaration} {d : Definition} (inside : d ∈ (after calls).definitions) :
    ∃ c ∈ calls, c.definition = d := by
  have found := getMember.mpr ⟨inside, rfl⟩
  rw [afterGet, firstOffered] at found
  split at found
  · cases found
  · exact List.mem_map.mp (List.mem_of_find?_eq_some found)

theorem containsBuilt {calls : List Declaration} {sub : Registry} (built : ∀ c ∈ calls, Built c)
    (contains : (after calls).Contains sub) : ∃ others, (∀ c ∈ others, Built c) ∧ sub = after others := by
  generalize same : after calls = r at contains
  induction contains generalizing calls with
  | self r => exact ⟨calls, built, same.symm⟩
  | deeper inside below _ ih =>
    obtain ⟨c, member, rfl⟩ := afterAmong (same ▸ inside)
    cases built c member with
    | plain leaf =>
      rw [Definition.children?, leaf] at below
      cases below
    | component others given deep =>
      rw [Definition.children?, given, Option.bind_eq_bind, Option.bind_some, ofListDefinitions] at below
      exact ih deep (Option.some.inj below)

structure Listed (r : Registry) : Prop where
  key : ∀ name d, r.get? name = some d → d.name = name
  found : ∀ d ∈ r.definitions, r.get? d.name = some d
  plain : ∀ name ∈ r.aliases, trim name.toList ≠ []
  members : ∀ name, name ∈ r.aliases ↔ (r.get? name).isSome = true
  rising : (r.aliases.map Octets.ofText).Pairwise (· < ·)
  counted : r.size = r.aliases.length
  below : ∀ d ∈ r.definitions, ∀ ds, d.nested? = some ds → ∃ children : Registry, children.definitions = ds

theorem listed {calls : List Declaration} (built : ∀ c ∈ calls, Built c) : (after calls).Listed where
  key name d found := (getMember.mp found).2
  found d inside := getMember.mpr ⟨inside, rfl⟩
  plain := List.forall_mem_map.mpr (after calls).plain
  members := (after calls).aliasFound
  rising := by
    rw [aliases, List.map_map, List.pairwise_map]
    exact (after calls).rising.imp Octets.ofTextBelow
  counted := (List.length_map Definition.name).symm
  below d inside ds nested := by
    obtain ⟨c, member, rfl⟩ := afterAmong inside
    cases built c member with
    | plain leaf =>
      rw [leaf] at nested
      cases nested
    | component others given _ => exact ⟨after others, Option.some.inj (given.symm.trans nested)⟩

theorem firstOfferedPerm {calls others : List Declaration} (same : calls.Perm others)
    (distinct : (calls.map Declaration.name).Nodup) (name : String) :
    firstOffered calls name = firstOffered others name := by
  have offered := same.map Declaration.definition
  have apart : ((calls.map Declaration.definition).map Definition.name).Nodup := by rwa [List.map_map]
  unfold firstOffered
  congr 1
  refine Option.ext fun d => ?_
  rw [findMember apart, findMember ((offered.map Definition.name).nodup_iff.mp apart), offered.mem_iff]

/- A registry is the history of the first definitions that were offered. -/
theorem registryHistory (calls : List Declaration) :
    (∀ c, ((after calls).declare c = .error .emptyAlias ↔ trim c.name.toList = []) ∧
      ((after calls).declare c = .error (.duplicateAlias c.name) ↔
        trim c.name.toList ≠ [] ∧ Accepted calls c.name) ∧
      ((after calls).declare c = .ok (after (calls ++ [c])) ↔ trim c.name.toList ≠ [] ∧ ¬Accepted calls c.name) ∧
      ∀ e, (after calls).declare c = .error e → after (calls ++ [c]) = after calls) ∧
    (∀ name, (after calls).get? name = firstOffered calls name) ∧
    (∀ d, d ∈ (after calls).definitions ↔ firstOffered calls d.name = some d) ∧
    ((∀ c ∈ calls, Built c) → ∀ sub, (after calls).Contains sub → sub.Listed) ∧
    ∀ others, calls.Perm others → (calls.map Declaration.name).Nodup → after calls = after others := by
  refine ⟨fun c => ?_, afterGet calls, fun d => ?_, fun built sub contains => ?_, fun others same distinct => ?_⟩
  · rw [acceptedFound, afterNext, next]
    rcases declareCases (after calls) c with ⟨blank, stops⟩ | ⟨plain, ⟨taken, stops⟩ | ⟨fresh, _, goes, _⟩⟩
    · simp [stops, blank]
    · simp [stops, plain, taken]
    · simp [goes, plain, fresh]
  · rw [← afterGet, getMember, and_iff_left rfl]
  · obtain ⟨others, deep, rfl⟩ := containsBuilt built contains
    exact listed deep
  · refine ext fun name => ?_
    rw [afterGet, afterGet, firstOfferedPerm same distinct]

def cellCalls : List Declaration := [.collection "cell" (.css "td"), .element "cell" (.css "th")]

def tableCalls : List Declaration :=
  [.element "table" (.css "table"), .element " " (.css "p"),
    .component "row" ⟨.css "tr", true, after cellCalls⟩, .collection "table" (.css "ul")]

theorem tableBuilt : ∀ c ∈ tableCalls, Built c := by
  have leaf {c : Declaration} (none : c.definition.nested? = none) : Built c := .plain none
  have cells : ∀ c ∈ cellCalls, Built c := by
    simp only [cellCalls, List.forall_mem_cons]
    exact ⟨leaf rfl, leaf rfl, by simp⟩
  simp only [tableCalls, List.forall_mem_cons]
  exact ⟨leaf rfl, leaf rfl, .component cellCalls rfl cells, leaf rfl, by simp⟩

theorem registryHistoryTable :
    (after tableCalls).declare (.element "row" (.css "li")) = .error (.duplicateAlias "row") ∧
      (after tableCalls).get? "table" = some (.element "table" (.css "table")) ∧ (after cellCalls).Listed := by
  obtain ⟨calls, found, _, below, _⟩ := registryHistory tableCalls
  have row : (after tableCalls).get? "row" =
      some (.component "row" (.css "tr") true (after cellCalls).definitions) := by
    rw [found]
    rfl
  refine ⟨?_, ?_, ?_⟩
  · have accepted : Accepted tableCalls "row" := (acceptedFound _ _).mpr (by rw [row]; rfl)
    exact (calls (.element "row" (.css "li"))).2.1.mpr ⟨by decide, accepted⟩
  · rw [found]
    rfl
  · exact below tableBuilt _ (.deeper (getMember.mp row).1 (Definition.childrenComponent _ _ _ _) (.self _))

end Registry

end LocatorPath
