import LocatorPath.Proofs.WebDriver.Tag

/-! What the commands of a call do to the tags of a page. A call puts its own tags on the nodes its script
returned and takes its own tags off; all else of the page stays as it is. -/
namespace LocatorPath

def ServerNode.bare (node : ServerNode) : ServerNode := {node with tag := none}

def ServerNode.plain : ServerNode where
  parent := none
  selectors := []
  text := ""
  stale := false
  tag := none

namespace Server

def bare (s : Server) : Server := {s with nodes := s.nodes.map ServerNode.bare, log := []}

def tagOf (s : Server) (n : Nat) : Option String := s.nodes[n]? >>= ServerNode.tag

def isAttached (s : Server) (n : Nat) : Bool := s.nodes[n]?.any ServerNode.attached

def heard (s : Server) (c : Command Nat) : Server := {s with log := s.log ++ [c]}

structure Reliable (s : Server) : Prop where
  reachable : s.reachable = true
  succeeds : ∀ count c, s.fails count c = none
  present : ∀ node ∈ s.nodes, node.stale = false

def Honest (s : Server) : Prop := ∀ node ∈ s.nodes, node.shownTag = none

theorem reliableBare (s : Server) : s.bare.Reliable ↔ s.Reliable := by
  constructor
  · rintro ⟨reachable, succeeds, present⟩
    exact ⟨reachable, succeeds, fun node inside => present node.bare (List.mem_map_of_mem inside)⟩
  · rintro ⟨reachable, succeeds, present⟩
    refine ⟨reachable, succeeds, fun node inside => ?_⟩
    obtain ⟨whole, here, rfl⟩ := List.mem_map.mp inside
    exact present whole here

theorem honestBare (s : Server) : s.bare.Honest ↔ s.Honest := List.forall_mem_map

theorem attachedBare (s : Server) : s.bare.isAttached = s.isAttached := by
  funext n
  simp only [isAttached, bare, List.getElem?_map, Option.any_map]
  rfl

theorem sizeBare (s : Server) : s.bare.size = s.size := List.length_map ServerNode.bare

section Alike

variable {s later : Server} (alike : later.bare = s.bare)

include alike

theorem reliableAlike : later.Reliable ↔ s.Reliable := by
  rw [← reliableBare later, alike, reliableBare]

theorem honestAlike : later.Honest ↔ s.Honest := by rw [← honestBare later, alike, honestBare]

theorem attachedAlike : later.isAttached = s.isAttached := by
  rw [← attachedBare later, alike, attachedBare]

theorem sizeAlike : later.size = s.size := by rw [← sizeBare later, alike, sizeBare]

theorem scriptsAlike : later.scripts = s.scripts := congrArg (fun page => page.scripts) alike

end Alike

/-! ## Tags put on and taken off -/

@[simp] theorem tagOfSet (s : Server) (n : Nat) (tag : Option String) (k : Nat) :
    (s.setTag n tag).tagOf k = if k = n ∧ n < s.size then tag else s.tagOf k := by
  simp only [tagOf, setTag, List.getElem?_modify]
  by_cases same : n = k
  · subst same
    by_cases inside : n < s.nodes.length
    · simp [size, inside]
    · simp [size, inside]
  · simp [same, Ne.symm same]

@[simp] theorem bareSet (s : Server) (n : Nat) (tag : Option String) : (s.setTag n tag).bare = s.bare := by
  simp only [bare, setTag]
  congr 1
  refine List.ext_getElem? fun k => ?_
  simp only [List.getElem?_map, List.getElem?_modify, Option.map_eq_map, Option.map_map]
  congr 1
  funext node
  simp only [Function.comp_apply]
  split <;> rfl

@[simp] theorem sizeSet (s : Server) (n : Nat) (tag : Option String) : (s.setTag n tag).size = s.size :=
  sizeAlike (bareSet s n tag)

@[simp] theorem tagOfUntag (s : Server) (mark : Tag.Mark) (n : Nat) :
    (s.untag mark).tagOf n =
      if s.isAttached n && isTagged mark (s.tagOf n) then none else s.tagOf n := by
  simp only [tagOf, untag, isAttached, List.getElem?_map]
  obtain absent | ⟨node, here⟩ := Option.eq_none_or_eq_some s.nodes[n]?
  · simp [absent]
  · simp only [here, Option.map_some, Option.any_some, Option.bind_eq_bind, Option.bind_some]
    split <;> rfl

@[simp] theorem bareUntag (s : Server) (mark : Tag.Mark) : (s.untag mark).bare = s.bare := by
  simp only [bare, untag, List.map_map]
  congr 2
  funext node
  simp only [Function.comp_apply]
  split <;> rfl

/-! ## What a call grants, and what it relies on -/

/-- What a call may have done: tags of its own on what its script returned, and such tags taken off. -/
structure Touched (mark : Tag.Mark) (items : List (Option Nat)) (s later : Server) : Prop where
  alike : later.bare = s.bare
  tags : ∀ n, later.tagOf n = s.tagOf n ∨
    later.tagOf n = none ∧ (isTagged mark (s.tagOf n) = true ∨ some n ∈ items) ∨
    ∃ place, items[place]? = some (some n) ∧
      later.tagOf n = some (Tag.value (Tag.markText mark) place)

namespace Touched

variable {mark : Tag.Mark} {items : List (Option Nat)} {s between later : Server}

theorem refl (s : Server) : Touched mark items s s := ⟨rfl, fun _ => .inl rfl⟩

theorem trans (first : Touched mark items s between) (second : Touched mark items between later) :
    Touched mark items s later := by
  refine ⟨second.alike.trans first.alike, fun n => ?_⟩
  rcases second.tags n with same | ⟨off, own⟩ | put
  · rw [same]
    exact first.tags n
  · refine .inr (.inl ⟨off, ?_⟩)
    rcases first.tags n with same | ⟨_, before⟩ | ⟨place, inside, _⟩
    · rwa [same] at own
    · exact before
    · exact .inr (List.mem_of_getElem? inside)
  · exact .inr (.inr put)

end Touched

/-- What others may have done to the tags of a call: none are added, and those on some nodes stay. -/
structure Spared (mark : Tag.Mark) (ns : List Nat) (s later : Server) : Prop where
  alike : later.bare = s.bare
  kept : ∀ n ∈ ns, isTagged mark (s.tagOf n) = true → later.tagOf n = s.tagOf n
  old : ∀ n, isTagged mark (later.tagOf n) = true → later.tagOf n = s.tagOf n

namespace Spared

variable {mark : Tag.Mark} {ns : List Nat} {s between later : Server}

theorem refl (s : Server) : Spared mark ns s s := ⟨rfl, fun _ _ _ => rfl, fun _ _ => rfl⟩

theorem trans (first : Spared mark ns s between) (second : Spared mark ns between later) :
    Spared mark ns s later := by
  refine ⟨second.alike.trans first.alike, fun n inside tagged => ?_, fun n tagged => ?_⟩
  · have same := first.kept n inside tagged
    rw [← same] at tagged ⊢
    exact second.kept n inside tagged
  · have same := second.old n tagged
    rw [same] at tagged ⊢
    exact first.old n tagged

end Spared

theorem Touched.spares {mark other : Tag.Mark} {items : List (Option Nat)} {ns : List Nat}
    {s later : Server} (touched : Touched mark items s later) (apart : mark ≠ other)
    (disjoint : ∀ n ∈ ns, some n ∉ items) : Spared other ns s later := by
  refine ⟨touched.alike, fun n inside tagged => ?_, fun n tagged => ?_⟩
  · rcases touched.tags n with same | ⟨_, own | returned⟩ | ⟨place, returned, _⟩
    · exact same
    · exact absurd (Tag.oneMark own tagged) apart
    · exact absurd returned (disjoint n inside)
    · exact absurd (List.mem_of_getElem? returned) (disjoint n inside)
  · rcases touched.tags n with same | ⟨off, _⟩ | ⟨place, _, put⟩
    · exact same
    · simp [off, isTagged] at tagged
    · rw [put, Tag.notTagged apart.symm place] at tagged
      cases tagged

theorem touchedSet (s : Server) (mark : Tag.Mark) {items : List (Option Nat)} {place n : Nat}
    (returned : items[place]? = some (some n)) :
    Touched mark items s (s.setTag n (some (Tag.value (Tag.markText mark) place))) := by
  refine ⟨bareSet s n _, fun k => ?_⟩
  rw [tagOfSet]
  split
  · next here => exact .inr (.inr ⟨place, here.1 ▸ returned, rfl⟩)
  · exact .inl rfl

theorem touchedUntag (s : Server) (mark : Tag.Mark) (items : List (Option Nat)) :
    Touched mark items s (s.untag mark) := by
  refine ⟨bareUntag s mark, fun n => ?_⟩
  rw [tagOfUntag]
  split
  · next own => exact .inr (.inl ⟨rfl, .inl ((Bool.and_eq_true_iff.mp own).2)⟩)
  · exact .inl rfl

theorem touchedHeard (s : Server) (c : Command Nat) (mark : Tag.Mark) (items : List (Option Nat)) :
    Touched mark items s (s.heard c) := ⟨rfl, fun _ => .inl rfl⟩

theorem touchedItems (mark : Tag.Mark) (front items : List (Option Nat)) (s : Server) :
    Touched mark (front ++ items) s (tagItems mark front.length items s).2 := by
  induction items generalizing front s with
  | nil => exact .refl s
  | cons item rest later =>
    cases item with
    | none => exact .refl s
    | some n =>
      have here : (front ++ some n :: rest)[front.length]? = some (some n) := by simp
      have others := later (front ++ [some n])
        (s.setTag n (some (Tag.value (Tag.markText mark) front.length)))
      rw [List.length_append, List.append_assoc] at others
      exact (touchedSet s mark here).trans others

def itemsOf (s : Server) (source : String) : List (Option Nat) :=
  match s.scripts.lookup source with
  | some ⟨.ok result, _⟩ => result.items
  | _ => []

theorem touchedTagging (s : Server) (source : String) (mark : Tag.Mark) :
    Touched mark (s.itemsOf source) s (s.runTagging source mark).2 := by
  unfold runTagging itemsOf
  cases s.scripts.lookup source with
  | none => exact .refl s
  | some entry =>
    obtain ⟨result, summary⟩ := entry
    cases result with
    | error message => exact .refl s
    | ok result =>
      have items := touchedItems mark [] result.items s
      simp only [List.nil_append, List.length_nil] at items ⊢
      split <;> next same => simpa [same] using items

inductive Ours (source : String) (mark : Tag.Mark) : Command Nat → Prop where
  | tag : Ours source mark (.tag source mark)
  | find : Ours source mark (.findTagged mark)
  | read (n : Nat) : Ours source mark (.readTag n)
  | untag : Ours source mark (.untag mark)

theorem performTouches {source : String} {mark : Tag.Mark} {c : Command Nat}
    (ours : Ours source mark c) (s : Server) :
    Touched mark (s.itemsOf source) s (s.perform c).2 := by
  cases ours with
  | tag => exact touchedTagging s source mark
  | find => exact .refl s
  | read n => exact .refl s
  | untag => exact touchedUntag s mark _

theorem receiveState (s : Server) (c : Command Nat) :
    (s.receive c).2 = s ∧ s.reachable = false ∨ (s.receive c).2 = s.heard c ∨
      (s.receive c).2 = ((s.heard c).perform c).2 := by
  unfold receive
  split
  · next gone => exact .inl ⟨rfl, by simpa using gone⟩
  · dsimp only
    split
    · split
      · exact .inr (.inr rfl)
      · exact .inr (.inl rfl)
    · split
      · exact .inr (.inl rfl)
      · exact .inr (.inr rfl)

theorem receiveTouches {source : String} {mark : Tag.Mark} {c : Command Nat}
    (ours : Ours source mark c) (s : Server) :
    Touched mark (s.itemsOf source) s (s.receive c).2 := by
  have heard := touchedHeard s c mark (s.itemsOf source)
  rcases receiveState s c with ⟨same, _⟩ | same | same
  · rw [same]
    exact .refl s
  · rw [same]
    exact heard
  · rw [same]
    exact heard.trans (performTouches ours (s.heard c))

theorem receiveOutcome (s : Server) (c : Command Nat) :
    s.receive c = (s.heard c).perform c ∨ (∃ e, (s.receive c).1 = .error e) ∧ ¬s.Reliable := by
  unfold receive
  split
  · next gone => exact .inr ⟨⟨_, rfl⟩, fun reliable => by simp [reliable.reachable] at gone⟩
  · dsimp only
    split
    · next failure planned =>
      exact .inr ⟨⟨_, rfl⟩, fun reliable => by simp [reliable.succeeds] at planned⟩
    · split
      · next e stale =>
        refine .inr ⟨⟨_, rfl⟩, fun reliable => ?_⟩
        simp only [staleFailure?, Option.bind_eq_bind, Option.bind_eq_some_iff] at stale
        obtain ⟨n, _, node, here, failure⟩ := stale
        have inside : node ∈ s.nodes := List.mem_of_getElem? here
        simp [reliable.present node inside] at failure
      · exact .inl rfl

theorem itemsOk (mark : Tag.Mark) {items : List (Option Nat)} (whole : none ∉ items) (place : Nat)
    (s : Server) : (tagItems mark place items s).1 = .ok () := by
  induction items generalizing place s with
  | nil => rfl
  | cons item rest others =>
    cases item with
    | none => simp at whole
    | some n => exact others (fun inside => whole (List.mem_cons_of_mem _ inside)) (place + 1) _

theorem tagOfItems (mark : Tag.Mark) {ns : List Nat} (distinct : ns.Nodup) (place : Nat) (s : Server)
    (n : Nat) : (tagItems mark place (ns.map some) s).2.tagOf n =
      if n ∈ ns ∧ n < s.size then some (Tag.value (Tag.markText mark) (place + ns.idxOf n))
      else s.tagOf n := by
  induction ns generalizing place s with
  | nil => simp [tagItems]
  | cons m rest others =>
    obtain ⟨apart, distinct⟩ := List.nodup_cons.mp distinct
    simp only [List.map_cons, tagItems, others distinct, sizeSet, tagOfSet]
    by_cases same : n = m
    · subst same
      simp [apart]
    · have later : (m :: rest).idxOf n = rest.idxOf n + 1 := List.idxOf_cons_ne rest (Ne.symm same)
      simp [same, later, Nat.add_comm, Nat.add_left_comm]

end Server

end LocatorPath
