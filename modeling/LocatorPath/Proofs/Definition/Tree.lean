import Mathlib.Data.List.Perm.Basic
import LocatorPath.Definition.Spec
import LocatorPath.Proofs.Definition.History
import LocatorPath.Proofs.Path.Pieces

/-! Written trees and the registries built from them. A node is looked at twice: its type before the nodes below
it, its alias after them. The first thing that is wrong in this order is the error. Where nothing is wrong, the
registry mirrors the tree level by level, and the order within a level does not matter. -/
namespace LocatorPath
open Unicode (trim)

namespace DefinitionSpec

def strategyName? : DefinitionSpec → Option String
  | mk _ _ strategy _ _ => strategy

def children? : DefinitionSpec → Option (List DefinitionSpec)
  | mk _ _ _ _ children => children

def knownTypes : List String := ["css", "xpath", "js", "android", "ios", "accessibilityId"]

-- The roots of a tree, or the children of one of its nodes.
inductive Level : List DefinitionSpec → List DefinitionSpec → Prop
  | top (specs) : Level specs specs
  | deeper {specs children level spec} (inside : spec ∈ specs) (kids : spec.children? = some children)
      (rest : Level children level) : Level specs level

structure Proper (level : List DefinitionSpec) : Prop where
  types : ∀ spec ∈ level, ∀ t, spec.strategyName? = some t → t ∈ knownTypes
  named : ∀ spec ∈ level, trim spec.name.toList ≠ []
  distinct : (level.map name).Nodup

def Valid (specs : List DefinitionSpec) : Prop := ∀ level, Level specs level → Proper level

inductive Selects : Option String → String → Selector → Prop
  | css (value) : Selects none value (.css value)
  | named (s : Strategy) (value) : Selects (some s.name) value ⟨s, value⟩

mutual

inductive Shows : DefinitionSpec → Definition → Prop
  | element {name text strategy s} (selects : Selects strategy text s) :
      Shows (mk name text strategy false none) (.element name s)
  | collection {name text strategy s} (selects : Selects strategy text s) :
      Shows (mk name text strategy true none) (.collection name s)
  | component {name text strategy s c children} {r : Registry} (selects : Selects strategy text s)
      (below : Mirrors children r) : Shows (mk name text strategy c (some children)) (.component name s c r.definitions)

inductive Mirrors : List DefinitionSpec → Registry → Prop
  | level {specs r} (aliases : r.aliases.Perm (specs.map name))
      (each : ∀ spec ∈ specs, ∀ d, r.get? spec.name = some d → Shows spec d) : Mirrors specs r

end

inductive Reordered : List DefinitionSpec → List DefinitionSpec → Prop
  | siblings {specs others} (perm : specs.Perm others) : Reordered specs others
  | deeper {children others} (inner : Reordered children others) (front name text strategy c rest) :
      Reordered (front ++ mk name text strategy c (some children) :: rest)
        (front ++ mk name text strategy c (some others) :: rest)
  | trans {specs between others} (first : Reordered specs between) (second : Reordered between others) :
      Reordered specs others

def typeOffences (name : String) : Option String → List DefinitionError
  | none => []
  | some t => if t ∈ knownTypes then [] else [⟨name, .unknownStrategy t⟩]

def nameOffences (earlier : List String) (name : String) : List DefinitionError :=
  if trim name.toList = [] then [⟨name, .emptyAlias⟩]
  else if name ∈ earlier then [⟨name, .duplicateAlias name⟩] else []

mutual

-- What is wrong with the type of a node and with everything below it.
def offences : DefinitionSpec → List DefinitionError
  | mk name _ strategy _ none => typeOffences name strategy
  | mk name _ strategy _ (some children) => typeOffences name strategy ++ offencesAmong [] children

def offencesAmong (earlier : List String) : List DefinitionSpec → List DefinitionError
  | [] => []
  | spec :: rest =>
    spec.offences ++ nameOffences earlier spec.name ++ offencesAmong (earlier ++ [spec.name]) rest

end

mutual

theorem nodeInduction {P : DefinitionSpec → Prop}
    (step : ∀ spec, (∀ children, spec.children? = some children → ∀ child ∈ children, P child) → P spec) :
    (spec : DefinitionSpec) → P spec
  | mk name text strategy c none => step _ (by intro children kids; cases kids)
  | mk name text strategy c (some children) => by
    refine step _ ?_
    intro others kids
    cases kids
    exact levelInduction step children

theorem levelInduction {P : DefinitionSpec → Prop}
    (step : ∀ spec, (∀ children, spec.children? = some children → ∀ child ∈ children, P child) → P spec) :
    (specs : List DefinitionSpec) → ∀ spec ∈ specs, P spec
  | [] => by simp
  | spec :: rest => by
    intro other inside
    cases inside with
    | head => exact nodeInduction step spec
    | tail _ later => exact levelInduction step rest other later

end

/-! ## The first offence -/

section Offences

variable {β γ : Type}

/-- A program fails with the first of some offences, and only then. -/
def FailsAt (out : Except DefinitionError β) (wrong : List DefinitionError) : Prop :=
  ∀ e, out = .error e ↔ wrong.head? = some e

theorem FailsAt.clean {out : Except DefinitionError β} {wrong : List DefinitionError} (fails : FailsAt out wrong) :
    (∃ b, out = .ok b) ↔ wrong = [] := by
  cases out with
  | ok b =>
    cases wrong with
    | nil => simp
    | cons e rest =>
      have same := (fails e).mpr rfl
      cases same
  | error e =>
    have first := (fails e).mp rfl
    cases wrong with
    | nil => cases first
    | cons e rest => simp

theorem FailsAt.bind {x : Except DefinitionError β} {next : β → Except DefinitionError γ}
    {wrong more : List DefinitionError} (first : FailsAt x wrong)
    (second : ∀ b, x = .ok b → FailsAt (next b) more) : FailsAt (x >>= next) (wrong ++ more) := by
  cases x with
  | ok b =>
    rw [first.clean.mp ⟨b, rfl⟩]
    exact second b rfl
  | error e =>
    intro other
    rw [List.head?_append, (first e).mp rfl]
    simp [Bind.bind, Except.bind]

theorem FailsAt.pure (b : β) : FailsAt (.ok b) [] := by
  intro e
  simp

theorem knownType (t : String) : t ∈ knownTypes ↔ ∃ s : Strategy, s.name = t := by
  constructor
  · intro known
    simp only [knownTypes, List.mem_cons, List.not_mem_nil, or_false] at known
    rcases known with rfl | rfl | rfl | rfl | rfl | rfl
    · exact ⟨.css, rfl⟩
    · exact ⟨.xpath, rfl⟩
    · exact ⟨.js, rfl⟩
    · exact ⟨.android, rfl⟩
    · exact ⟨.ios, rfl⟩
    · exact ⟨.accessibilityId, rfl⟩
  · intro known
    obtain ⟨s, rfl⟩ := known
    cases s <;> decide

theorem unknownType {t : String} (unknown : t ∉ knownTypes) : Strategy.ofName? t = none := by
  unfold Strategy.ofName?
  split <;> first | rfl | exact absurd (by decide) unknown

theorem selectsParsed {strategy : Option String} {text : String} {s : Selector} :
    Selector.parse strategy text = .ok s ↔ Selects strategy text s := by
  constructor
  · intro parsed
    cases strategy with
    | none =>
      cases parsed
      exact .css text
    | some t =>
      by_cases known : t ∈ knownTypes
      · obtain ⟨how, rfl⟩ := (knownType t).mp known
        simp only [Selector.parse, Strategy.nameKnown] at parsed
        cases parsed
        exact .named how text
      · simp [Selector.parse, unknownType known] at parsed
  · intro selects
    cases selects with
    | css => rfl
    | named how => simp [Selector.parse, Strategy.nameKnown]

theorem typeFails (name text : String) (strategy : Option String) :
    FailsAt ((Selector.parse strategy text).mapError (DefinitionError.mk name)) (typeOffences name strategy) := by
  cases strategy with
  | none => exact .pure _
  | some t =>
    by_cases known : t ∈ knownTypes
    · obtain ⟨how, rfl⟩ := (knownType t).mp known
      simp only [Selector.parse, Strategy.nameKnown, typeOffences, known, if_true]
      exact .pure _
    · intro e
      simp [Selector.parse, unknownType known, typeOffences, known, Except.mapError]

def Holds (r : Registry) (names : List String) : Prop := ∀ name, (r.get? name).isSome = true ↔ name ∈ names

theorem insertCases (r : Registry) (d : Definition) :
    trim d.name.toList = [] ∧ r.insert d = .error .emptyAlias ∨
      trim d.name.toList ≠ [] ∧ ((r.get? d.name).isSome = true ∧ r.insert d = .error (.duplicateAlias d.name) ∨
        r.get? d.name = none ∧ ∃ later, r.insert d = .ok later ∧
          later.definitions = Registry.place d r.definitions) :=
  Registry.declareCases r (.insert d)

theorem nameFails {r : Registry} {earlier : List String} (holds : Holds r earlier) (d : Definition) :
    FailsAt ((r.insert d).mapError (DefinitionError.mk d.name)) (nameOffences earlier d.name) := by
  intro e
  unfold nameOffences
  rcases insertCases r d with ⟨blank, stops⟩ | ⟨plain, ⟨taken, stops⟩ | ⟨fresh, _, goes, _⟩⟩
  · simp [stops, blank, Except.mapError]
  · have inside := (holds d.name).mp taken
    simp [stops, plain, inside, Except.mapError]
  · have free : d.name ∉ earlier := by
      intro inside
      have taken := (holds d.name).mpr inside
      simp [fresh] at taken
    simp [goes, plain, free, Except.mapError]

theorem insertedCases {r later : Registry} {d : Definition} : r.insert d = .ok later ↔
    trim d.name.toList ≠ [] ∧ r.get? d.name = none ∧ later = r.next (.insert d) := by
  have declares : r.declare (.insert d) = r.insert d := rfl
  rcases insertCases r d with ⟨blank, stops⟩ | ⟨plain, ⟨taken, stops⟩ | ⟨fresh, _, goes, _⟩⟩
  · simp [stops, blank]
  · have held := Option.ne_none_iff_isSome.mpr taken
    simp [stops, held]
  · rw [Registry.next, declares, goes]
    simp [plain, fresh, eq_comm]

theorem holdsInserted {r later : Registry} {earlier : List String} {d : Definition} (holds : Holds r earlier)
    (inserted : r.insert d = .ok later) : Holds later (earlier ++ [d.name]) := by
  intro name
  obtain ⟨plain, _, rfl⟩ := insertedCases.mp inserted
  rw [Registry.getNext, Option.isSome_or, Bool.or_eq_true, holds name, List.mem_append, List.mem_singleton]
  have own : (Declaration.insert d).name = d.name := rfl
  rw [own]
  by_cases same : d.name = name
  · subst same
    simp [plain]
  · simp [same, Ne.symm same]

end Offences

/-! ## Trees that are built -/

theorem bindOk {ε β γ : Type} {x : Except ε β} {next : β → Except ε γ} {c : γ} :
    x >>= next = .ok c ↔ ∃ b, x = .ok b ∧ next b = .ok c := by
  cases x <;> simp [Bind.bind, Except.bind]

theorem mapErrorOk {ε δ β : Type} {f : ε → δ} {x : Except ε β} {b : β} : x.mapError f = .ok b ↔ x = .ok b := by
  cases x <;> simp [Except.mapError]

theorem defineLeaf {name text : String} {strategy : Option String} {c : Bool} {d : Definition} :
    (mk name text strategy c none).define = .ok d ↔
      ∃ s, Selects strategy text s ∧ d = if c then .collection name s else .element name s := by
  unfold define
  simp only [bindOk, mapErrorOk, selectsParsed, Pure.pure, Except.pure, Except.ok.injEq]
  refine exists_congr fun s => and_congr_right fun _ => ?_
  exact eq_comm

theorem defineComponent {name text : String} {strategy : Option String} {c : Bool}
    {children : List DefinitionSpec} {d : Definition} : (mk name text strategy c (some children)).define = .ok d ↔
      ∃ s r, Selects strategy text s ∧ buildRegistry children = .ok r ∧ d = .component name s c r.definitions := by
  unfold define
  simp only [bindOk, mapErrorOk, selectsParsed, Pure.pure, Except.pure, Except.ok.injEq, exists_and_left]
  refine exists_congr fun s => and_congr_right fun _ => exists_congr fun r => and_congr_right fun _ => ?_
  exact eq_comm

theorem defineName {spec : DefinitionSpec} {d : Definition} (defines : spec.define = .ok d) : d.name = spec.name := by
  obtain ⟨name, text, strategy, c, children⟩ := spec
  cases children with
  | none =>
    obtain ⟨s, _, rfl⟩ := defineLeaf.mp defines
    cases c <;> rfl
  | some children =>
    obtain ⟨s, r, _, _, rfl⟩ := defineComponent.mp defines
    rfl

theorem defineAllNext {spec : DefinitionSpec} {rest : List DefinitionSpec} {r later : Registry} :
    defineAll r (spec :: rest) = .ok later ↔ ∃ d between, spec.define = .ok d ∧ r.insert d = .ok between ∧
      defineAll between rest = .ok later := by
  rw [defineAll]
  simp only [bindOk, mapErrorOk, exists_and_left]

theorem holdsNothing : Holds .empty [] := by
  intro name
  simp [Registry.empty, Registry.get?]

theorem defineAllFails {specs : List DefinitionSpec} (each : ∀ spec ∈ specs, FailsAt spec.define spec.offences)
    {r : Registry} {earlier : List String} (holds : Holds r earlier) :
    FailsAt (defineAll r specs) (offencesAmong earlier specs) := by
  induction specs generalizing r earlier with
  | nil => exact .pure r
  | cons spec rest ih =>
    unfold defineAll offencesAmong
    rw [List.append_assoc]
    refine (each spec List.mem_cons_self).bind ?_
    intro d defines
    rw [← defineName defines]
    refine (nameFails holds d).bind ?_
    intro later inserted
    have later := holdsInserted holds (mapErrorOk.mp inserted)
    exact ih (fun other inside => each other (List.mem_cons_of_mem spec inside)) later

theorem defineFails (spec : DefinitionSpec) : FailsAt spec.define spec.offences := by
  induction spec using nodeInduction with
  | step spec ih =>
    obtain ⟨name, text, strategy, c, children⟩ := spec
    have reads := typeFails name text strategy
    cases children with
    | none =>
      have whole := reads.bind fun s _ => FailsAt.pure (if c then Definition.collection name s else .element name s)
      rw [List.append_nil] at whole
      unfold define offences
      exact whole
    | some children =>
      have among := defineAllFails (ih children rfl) holdsNothing
      unfold define offences
      refine reads.bind ?_
      intro s _
      have whole := among.bind fun below _ => FailsAt.pure (Definition.component name s c below.definitions)
      rw [List.append_nil] at whole
      exact whole

theorem buildFails (specs : List DefinitionSpec) : FailsAt (buildRegistry specs) (offencesAmong [] specs) :=
  defineAllFails (fun spec _ => defineFails spec) holdsNothing

structure Fills (ds : List Definition) (r later : Registry) : Prop where
  named : ∀ d ∈ ds, trim d.name.toList ≠ []
  fresh : ∀ d ∈ ds, r.get? d.name = none
  distinct : (ds.map Definition.name).Nodup
  result : later = (ds.map Declaration.insert).foldl Registry.next r

def Defines (specs : List DefinitionSpec) (ds : List Definition) : Prop :=
  List.Forall₂ (fun spec d => define spec = .ok d) specs ds

theorem fillsNext {d : Definition} {ds : List Definition} {r later : Registry} :
    Fills (d :: ds) r later ↔ ∃ between, r.insert d = .ok between ∧ Fills ds between later := by
  have found (plain : trim d.name.toList ≠ []) (e : Definition) : (r.next (.insert d)).get? e.name = none ↔
      r.get? e.name = none ∧ d.name ≠ e.name := by
    have own : (Declaration.insert d).name = d.name := rfl
    rw [Registry.getNext, own]
    by_cases same : d.name = e.name
    · rw [← same]
      simp [plain]
    · simp [same]
  constructor
  · intro fills
    obtain ⟨named, others, distinct, result⟩ := fills
    obtain ⟨plain, named⟩ := List.forall_mem_cons.mp named
    obtain ⟨fresh, others⟩ := List.forall_mem_cons.mp others
    rw [List.map_cons, List.nodup_cons] at distinct
    refine ⟨_, insertedCases.mpr ⟨plain, fresh, rfl⟩, named, ?_, distinct.2, result⟩
    intro e inside
    refine (found plain e).mpr ⟨others e inside, fun same => distinct.1 ?_⟩
    rw [same]
    exact List.mem_map_of_mem inside
  · intro fills
    obtain ⟨between, inserted, named, others, distinct, result⟩ := fills
    obtain ⟨plain, fresh, rfl⟩ := insertedCases.mp inserted
    have free (e : Definition) (inside : e ∈ ds) := (found plain e).mp (others e inside)
    refine ⟨List.forall_mem_cons.mpr ⟨plain, named⟩,
      List.forall_mem_cons.mpr ⟨fresh, fun e inside => (free e inside).1⟩, ?_, result⟩
    rw [List.map_cons, List.nodup_cons]
    refine ⟨fun inside => ?_, distinct⟩
    obtain ⟨e, member, same⟩ := List.mem_map.mp inside
    exact (free e member).2 same.symm

theorem defineAllOk {specs : List DefinitionSpec} {r later : Registry} :
    defineAll r specs = .ok later ↔ ∃ ds, Defines specs ds ∧ Fills ds r later := by
  induction specs generalizing r with
  | nil =>
    constructor
    · intro built
      cases built
      exact ⟨[], .nil, by simp, by simp, List.nodup_nil, rfl⟩
    · intro built
      obtain ⟨ds, defines, fills⟩ := built
      cases defines
      rw [fills.result]
      rfl
  | cons spec rest ih =>
    rw [defineAllNext]
    constructor
    · intro built
      obtain ⟨d, between, defines, inserted, built⟩ := built
      obtain ⟨ds, all, fills⟩ := ih.mp built
      exact ⟨d :: ds, .cons defines all, fillsNext.mpr ⟨between, inserted, fills⟩⟩
    · intro built
      obtain ⟨_, all, fills⟩ := built
      cases all with
      | cons defines all =>
        obtain ⟨between, inserted, fills⟩ := fillsNext.mp fills
        exact ⟨_, between, defines, inserted, ih.mpr ⟨_, all, fills⟩⟩

theorem buildOk {specs : List DefinitionSpec} {r : Registry} :
    buildRegistry specs = .ok r ↔ ∃ ds, Defines specs ds ∧ Fills ds .empty r := defineAllOk

theorem Fills.perm {ds : List Definition} {r : Registry} (fills : Fills ds .empty r) : r.definitions.Perm ds := by
  obtain ⟨named, _, distinct, rfl⟩ := fills
  have held : (Registry.after (ds.map .insert)).definitions.Nodup :=
    (Registry.after _).rising.imp fun less same => String.ne_of_lt less (congrArg Definition.name same)
  refine (List.perm_ext_iff_of_nodup held (List.Nodup.of_map _ distinct)).mpr ?_
  intro d
  have offered : (ds.map Declaration.insert).map Declaration.definition = ds := by
    rw [List.map_map]
    exact List.map_id ds
  have own : d ∈ (Registry.after (ds.map .insert)).definitions ↔
      (Registry.after (ds.map .insert)).get? d.name = some d := by
    rw [Registry.getMember, and_iff_left rfl]
  change d ∈ (Registry.after (ds.map .insert)).definitions ↔ d ∈ ds
  rw [own, Registry.afterGet, Registry.firstOffered, offered]
  constructor
  · intro found
    split at found
    · cases found
    · exact List.mem_of_find?_eq_some found
  · intro inside
    rw [if_neg (named d inside)]
    exact (Registry.findMember distinct).mpr ⟨inside, rfl⟩

theorem Defines.names {specs : List DefinitionSpec} {ds : List Definition} (defines : Defines specs ds) :
    ds.map Definition.name = specs.map name := by
  induction defines with
  | nil => rfl
  | cons head _ ih => rw [List.map_cons, List.map_cons, ih, defineName head]

theorem Defines.member {specs : List DefinitionSpec} {ds : List Definition} (defines : Defines specs ds)
    {spec : DefinitionSpec} (inside : spec ∈ specs) : ∃ d ∈ ds, spec.define = .ok d := by
  obtain ⟨d, member, defined⟩ := forall₂Member defines.flip inside
  exact ⟨d, member, defined⟩

theorem buildMirrors {specs : List DefinitionSpec} {r : Registry}
    (shows : ∀ spec ∈ specs, ∀ d, spec.define = .ok d → Shows spec d) (built : buildRegistry specs = .ok r) :
    Mirrors specs r := by
  obtain ⟨ds, defines, fills⟩ := buildOk.mp built
  constructor
  · rw [← defines.names]
    exact fills.perm.map Definition.name
  · intro spec inside d found
    obtain ⟨e, member, defined⟩ := defines.member inside
    obtain ⟨held, named⟩ := Registry.getMember.mp found
    have same : d = e := by
      refine List.inj_on_of_nodup_map fills.distinct (fills.perm.mem_iff.mp held) member ?_
      rw [named, defineName defined]
    rw [same]
    exact shows spec inside e defined

theorem defineShows (spec : DefinitionSpec) : ∀ d, spec.define = .ok d → Shows spec d := by
  induction spec using nodeInduction with
  | step spec ih =>
    intro d defines
    obtain ⟨name, text, strategy, c, children⟩ := spec
    cases children with
    | none =>
      obtain ⟨s, selects, rfl⟩ := defineLeaf.mp defines
      cases c with
      | false => exact .element selects
      | true => exact .collection selects
    | some children =>
      obtain ⟨s, r, selects, built, rfl⟩ := defineComponent.mp defines
      exact .component selects (buildMirrors (ih children rfl) built)

/-! ## Valid trees -/

theorem typeClean {name : String} {strategy : Option String} :
    typeOffences name strategy = [] ↔ ∀ t, strategy = some t → t ∈ knownTypes := by
  cases strategy <;> simp [typeOffences]

theorem nameClean {earlier : List String} {name : String} :
    nameOffences earlier name = [] ↔ trim name.toList ≠ [] ∧ name ∉ earlier := by
  unfold nameOffences
  by_cases blank : trim name.toList = []
  · simp [blank]
  · simp [blank]

theorem amongClean {specs : List DefinitionSpec} {earlier : List String} :
    offencesAmong earlier specs = [] ↔ (∀ spec ∈ specs, spec.offences = [] ∧ trim spec.name.toList ≠ []) ∧
      (specs.map name).Nodup ∧ ∀ spec ∈ specs, spec.name ∉ earlier := by
  induction specs generalizing earlier with
  | nil => simp [offencesAmong]
  | cons spec rest ih =>
    simp only [offencesAmong, List.append_eq_nil_iff, nameClean, ih, List.map_cons, List.nodup_cons, List.mem_map,
      List.forall_mem_cons, List.mem_append, List.mem_singleton, not_or, not_exists, not_and]
    constructor
    · intro clean
      obtain ⟨⟨own, plain, free⟩, others, distinct, apart⟩ := clean
      exact ⟨⟨⟨own, plain⟩, others⟩, ⟨fun other inside => (apart other inside).2, distinct⟩, free,
        fun other inside => (apart other inside).1⟩
    · intro clean
      obtain ⟨⟨⟨own, plain⟩, others⟩, ⟨apart, distinct⟩, free, frees⟩ := clean
      exact ⟨⟨own, plain, free⟩, others, distinct, fun other inside => ⟨frees other inside, apart other inside⟩⟩

theorem ownClean {spec : DefinitionSpec} : spec.offences = [] ↔
    (∀ t, spec.strategyName? = some t → t ∈ knownTypes) ∧
      ∀ children, spec.children? = some children → offencesAmong [] children = [] := by
  obtain ⟨name, text, strategy, c, children⟩ := spec
  cases children <;> simp [offences, typeClean, strategyName?, children?]

theorem cleanProper {specs : List DefinitionSpec} (clean : offencesAmong [] specs = []) : Proper specs := by
  obtain ⟨each, distinct, _⟩ := amongClean.mp clean
  exact ⟨fun spec inside => (ownClean.mp (each spec inside).1).1, fun spec inside => (each spec inside).2, distinct⟩

theorem properClean {specs : List DefinitionSpec} (proper : Proper specs)
    (below : ∀ spec ∈ specs, ∀ children, spec.children? = some children → offencesAmong [] children = []) :
    offencesAmong [] specs = [] := by
  refine amongClean.mpr ⟨?_, proper.distinct, fun spec inside => List.not_mem_nil⟩
  intro spec inside
  exact ⟨ownClean.mpr ⟨proper.types spec inside, below spec inside⟩, proper.named spec inside⟩

theorem validBelow (spec : DefinitionSpec) :
    ∀ children, spec.children? = some children → Valid children → offencesAmong [] children = [] := by
  induction spec using nodeInduction with
  | step spec ih =>
    intro children kids valid
    refine properClean (valid children (.top children)) ?_
    intro child inside others deeper
    refine ih children kids child inside others deeper ?_
    intro level within
    exact valid level (.deeper inside deeper within)

theorem cleanValid {specs : List DefinitionSpec} : offencesAmong [] specs = [] ↔ Valid specs := by
  constructor
  · intro clean level within
    induction within with
    | top specs => exact cleanProper clean
    | deeper inside kids _ ih => exact ih ((ownClean.mp ((amongClean.mp clean).1 _ inside).1).2 _ kids)
  · intro valid
    refine properClean (valid specs (.top specs)) ?_
    intro spec inside children kids
    exact validBelow spec children kids fun level within => valid level (.deeper inside kids within)

/-! ## The order of siblings -/

theorem Fills.again {ds again : List Definition} {r : Registry} (fills : Fills ds .empty r) (perm : ds.Perm again) :
    Fills again .empty r := by
  have distinct := (perm.map Definition.name).nodup_iff.mp fills.distinct
  refine ⟨fun d inside => fills.named d (perm.mem_iff.mpr inside), fun _ _ => rfl, distinct, ?_⟩
  have named : ((ds.map Declaration.insert).map Declaration.name).Nodup := by
    rw [List.map_map]
    exact fills.distinct
  rw [fills.result]
  change Registry.after _ = Registry.after _
  refine Registry.ext ?_
  intro name
  rw [Registry.afterGet, Registry.afterGet]
  exact Registry.firstOfferedPerm (perm.map _) named name

theorem buildAgain {specs others : List DefinitionSpec} {r : Registry}
    (moves : ∀ ds, Defines specs ds → ∃ again, Defines others again ∧ ds.Perm again)
    (built : buildRegistry specs = .ok r) : buildRegistry others = .ok r := by
  obtain ⟨ds, defines, fills⟩ := buildOk.mp built
  obtain ⟨again, defined, perm⟩ := moves ds defines
  exact buildOk.mpr ⟨again, defined, fills.again perm⟩

theorem Defines.replaced {front rest : List DefinitionSpec} {spec other : DefinitionSpec} {ds : List Definition}
    (same : ∀ d, spec.define = .ok d → other.define = .ok d) (defines : Defines (front ++ spec :: rest) ds) :
    Defines (front ++ other :: rest) ds := by
  induction front generalizing ds with
  | nil =>
    cases defines with
    | cons head tail => exact .cons (same _ head) tail
  | cons first front ih =>
    cases defines with
    | cons head tail => exact .cons head (ih tail)

theorem reorderedDefines {specs others : List DefinitionSpec} (reordered : Reordered specs others) :
    ∀ ds, Defines specs ds → ∃ again, Defines others again ∧ ds.Perm again := by
  induction reordered with
  | siblings perm =>
    intro ds defines
    obtain ⟨again, defined, moved⟩ := List.perm_comp_forall₂ perm.symm defines
    exact ⟨again, defined, moved.symm⟩
  | deeper inner front name text strategy c rest ih =>
    intro ds defines
    refine ⟨ds, defines.replaced ?_, .refl ds⟩
    intro d defined
    obtain ⟨s, r, selects, built, shape⟩ := defineComponent.mp defined
    exact defineComponent.mpr ⟨s, r, selects, buildAgain ih built, shape⟩
  | trans first second one two =>
    intro ds defines
    obtain ⟨between, defined, perm⟩ := one ds defines
    obtain ⟨again, redefined, more⟩ := two between defined
    exact ⟨again, redefined, perm.trans more⟩

/- A tree is built exactly if it is valid, the registry mirrors it in whatever order it is written, and what keeps
it from being built is the first thing that is wrong. -/
theorem treeMirrored (specs : List DefinitionSpec) :
    ((∃ r, buildRegistry specs = .ok r) ↔ Valid specs) ∧
    (∀ r, buildRegistry specs = .ok r → Mirrors specs r ∧
      ∀ others, Reordered specs others → buildRegistry others = .ok r) ∧
    ∀ e, buildRegistry specs = .error e ↔ (offencesAmong [] specs).head? = some e := by
  have fails := buildFails specs
  refine ⟨fails.clean.trans cleanValid, ?_, fails⟩
  intro r built
  exact ⟨buildMirrors (fun spec _ => defineShows spec) built,
    fun others reordered => buildAgain (reorderedDefines reordered) built⟩

theorem listsMirrored :
    (∃ r, buildRegistry [mk "ul" "ul" none false (some [mk "li" "//li" (some "xpath") true none]),
        mk "p" "p" none false none] = .ok r ∧
      Mirrors [mk "ul" "ul" none false (some [mk "li" "//li" (some "xpath") true none]), mk "p" "p" none false none] r ∧
      buildRegistry [mk "p" "p" none false none,
        mk "ul" "ul" none false (some [mk "li" "//li" (some "xpath") true none])] = .ok r) ∧
    buildRegistry [mk "" "ul" none false (some [mk "li" "li" none true none, mk "li" "li" (some "id") true none])] =
      .error ⟨"li", .unknownStrategy "id"⟩ := by
  obtain ⟨r, built⟩ : ∃ r, buildRegistry [mk "ul" "ul" none false (some [mk "li" "//li" (some "xpath") true none]),
      mk "p" "p" none false none] = .ok r := ⟨_, rfl⟩
  obtain ⟨mirrors, again⟩ := (treeMirrored _).2.1 r built
  refine ⟨⟨r, built, mirrors, again _ (.siblings (.swap ..))⟩, ?_⟩
  exact ((treeMirrored _).2.2 _).mpr rfl

end DefinitionSpec

end LocatorPath
