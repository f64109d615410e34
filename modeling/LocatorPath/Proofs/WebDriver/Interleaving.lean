import Mathlib.Data.List.Basic
import LocatorPath.Proofs.WebDriver.Marked

/-! Two scripts run at the same time in one session. Their commands may come in any order, each of them
carried out as a whole. Calls whose scripts return different nodes do not notice each other. The marks
do not keep calls apart that return the same node: the tag of one is written over by the other. -/
namespace LocatorPath

variable {β γ : Type}

inductive Turn where
  | first
  | second
  deriving DecidableEq, Repr

namespace Dialogue

/-- Two dialogues with one server. When the turns are used up, both are brought to their ends. A dialogue
that is done leaves its turns unused. -/
def interleave : List Turn → Dialogue Nat β → Dialogue Nat γ → Server → (β × γ) × Server
  | [], d, e, s =>
    let (b, s) := d.finish s
    let (c, s) := e.finish s
    ((b, c), s)
  | .first :: turns, ask c next, e, s =>
    let (answer, s) := s.receive c
    interleave turns (next answer) e s
  | .second :: turns, d, ask c next, s =>
    let (answer, s) := s.receive c
    interleave turns d (next answer) s
  | .first :: turns, done b, e, s => interleave turns (done b) e s
  | .second :: turns, d, done c, s => interleave turns d (done c) s

section Beside

variable {ours theirs : Server → Server → Prop} {afterOurs : β → Server → Prop}
  {afterTheirs : γ → Server → Prop}

structure Beside (ours theirs : Server → Server → Prop) (afterOurs : β → Server → Prop)
    (afterTheirs : γ → Server → Prop) (d : Dialogue Nat β) (e : Dialogue Nat γ) (s : Server) :
    Prop where
  left : d.Keeps theirs ours afterOurs s
  right : e.Keeps ours theirs afterTheirs s

namespace Beside

variable {d : Dialogue Nat β} {e : Dialogue Nat γ} {s : Server}

theorem swap (beside : Beside ours theirs afterOurs afterTheirs d e s) :
    Beside theirs ours afterTheirs afterOurs e d s := ⟨beside.right, beside.left⟩

theorem turn {c : Command Nat} {next : Except CommandError (Reply Nat) → Dialogue Nat β}
    (still : ∀ s, theirs s s) (trans : ∀ a b c, ours a b → ours b c → ours a c)
    (beside : Beside ours theirs afterOurs afterTheirs (ask c next) e s) :
    Beside ours theirs afterOurs afterTheirs (next (s.receive c).1) e (s.receive c).2 := by
  obtain ⟨granted, rest⟩ := beside.left s (still s)
  exact ⟨rest, beside.right.pass trans granted⟩

theorem finish (still : ∀ s, theirs s s) (trans : ∀ a b c, ours a b → ours b c → ours a c)
    (beside : Beside ours theirs afterOurs afterTheirs d e s) :
    Beside ours theirs afterOurs afterTheirs (done (d.finish s).1) e (d.finish s).2 := by
  induction d generalizing s with
  | done b => exact beside
  | ask c next later => exact later _ (beside.turn still trans)

theorem interleave (stillOurs : ∀ s, ours s s) (stillTheirs : ∀ s, theirs s s)
    (transOurs : ∀ a b c, ours a b → ours b c → ours a c)
    (transTheirs : ∀ a b c, theirs a b → theirs b c → theirs a c) (turns : List Turn)
    (beside : Beside ours theirs afterOurs afterTheirs d e s) :
    afterOurs (Dialogue.interleave turns d e s).1.1 (Dialogue.interleave turns d e s).2 ∧
      afterTheirs (Dialogue.interleave turns d e s).1.2 (Dialogue.interleave turns d e s).2 := by
  induction turns generalizing d e s with
  | nil =>
    have first := beside.finish stillTheirs transOurs
    have second := first.swap.finish stillOurs transTheirs
    exact ⟨second.right _ (stillTheirs _), second.left _ (stillOurs _)⟩
  | cons turn turns later =>
    cases turn with
    | first =>
      cases d with
      | done b => exact later beside
      | ask c next => exact later (beside.turn stillTheirs transOurs)
    | second =>
      cases e with
      | done c => exact later beside
      | ask c next => exact later (beside.swap.turn stillOurs transTheirs).swap

end Beside

end Beside

end Dialogue

namespace Client

def together (turns : List Turn) (mark : Tag.Mark) (first second : String) (s : Server) :
    (Except DriverError (Scope Nat) × Except DriverError (Scope Nat)) × Server :=
  let ((one, two), last) := Dialogue.interleave turns ((runScript Dialogue.wire first).run.run mark)
    ((runScript Dialogue.wire second).run.run (mark + 1)) s
  ((one.1, two.1), last)

end Client

namespace Server

theorem aloneReturns {source : String} {scope : Scope Nat} {mark : Tag.Mark} {s : Server}
    (returns : Returns source scope s) (honest : s.Honest) (reliable : s.Reliable)
    (unused : Unused mark s) : (Client.alone source mark s).1 = .ok scope := by
  have keeps := scriptKeeps source mark (.ofScope scope) scope.toList s
  have finished := (keeps.finish .refl .refl fun _ _ _ => .trans).1.2
  rw [← Client.runScriptFinish] at finished
  rcases finished.returned returns honest unused with returned | ⟨unreliable, _⟩
  · exact returned
  · exact absurd reliable unreliable

structure TaggedBy (mark other : Tag.Mark) (page s : Server) : Prop where
  alike : s.bare = page.bare
  tags : ∀ n, s.tagOf n = none ∨ page.isAttached n = true ∧
    (isTagged mark (s.tagOf n) = true ∨ isTagged other (s.tagOf n) = true)

theorem TaggedBy.swap {mark other : Tag.Mark} {page s : Server} (tagged : TaggedBy mark other page s) :
    TaggedBy other mark page s :=
  ⟨tagged.alike, fun n => (tagged.tags n).imp_right fun ⟨attached, own⟩ => ⟨attached, own.symm⟩⟩

theorem TaggedBy.touched {mark other : Tag.Mark} {scope : Scope Nat} {page s later : Server}
    (attached : ∀ n ∈ scope.toList, page.isAttached n = true)
    (touched : Touched mark (scope.toList.map some) s later) (tagged : TaggedBy mark other page s) :
    TaggedBy mark other page later := by
  refine ⟨touched.alike.trans tagged.alike, fun n => ?_⟩
  rcases touched.tags n with same | ⟨off, _⟩ | ⟨place, inside, put⟩
  · rw [same]
    exact tagged.tags n
  · exact .inl off
  · have member : n ∈ scope.toList := by simpa using List.mem_of_getElem? inside
    rw [put]
    exact .inr ⟨attached n member, .inl (Tag.ownTagged mark place)⟩

theorem TaggedBy.cleared {mark other : Tag.Mark} {page s : Server} (tagged : TaggedBy mark other page s)
    (first : Cleared mark s) (second : Cleared other s) (n : Nat) : s.tagOf n = none := by
  rcases tagged.tags n with none | ⟨attached, own⟩
  · exact none
  · rw [← attachedAlike tagged.alike] at attached
    rw [first n attached, second n attached] at own
    simp at own

/- One of two calls at the same time. Of the nodes of its result, those that the other one does not return
are sure to keep their tags. -/
theorem callBeside {mark other : Tag.Mark} {source : String} {scope strange : Scope Nat} {page : Server}
    (apart : mark ≠ other) (returns : Returns source scope page)
    (attached : ∀ n ∈ strange.toList, page.isAttached n = true) (ns : List Nat)
    (disjoint : ∀ n ∈ ns, n ∉ strange.toList) (untagged : ∀ n, page.tagOf n = none) :
    ((Client.runScript Dialogue.wire source).run.run mark).Keeps
      (Touched other (strange.toList.map some)) (Touched mark (scope.toList.map some))
      (fun out last => (out.2 = mark + 1 ∧
        Answered source mark (.ofScope scope) ns page out.1 last) ∧ TaggedBy mark other page last)
      page := by
  have keeps := scriptKeeps source mark (.ofScope scope) ns page
  rw [returns.itemsOf] at keeps
  have spares (a b : Server) (touched : Touched other (strange.toList.map some) a b) :
      Spared mark ns a b := touched.spares apart.symm fun n inside => by simpa using disjoint n inside
  refine (keeps.weaken spares fun _ _ ended => ended).also (TaggedBy mark other page) ?_ ?_
    ⟨rfl, fun n => .inl (untagged n)⟩
  · exact fun touched tagged => (tagged.swap.touched attached touched).swap
  · exact fun touched tagged => tagged.touched returns.attached touched

section Together

variable {first second : String} {one two : Scope Nat} {page : Server}

theorem endTogether (turns : List Turn) (mark : Tag.Mark)
    (returnsFirst : Returns first one page) (returnsSecond : Returns second two page)
    (untagged : ∀ n, page.tagOf n = none) {ns ks : List Nat} (others : ∀ n ∈ ns, n ∉ two.toList)
    (strange : ∀ n ∈ ks, n ∉ one.toList) :
    let ended := Client.together turns mark first second page
    Answered first mark (.ofScope one) ns page ended.1.1 ended.2 ∧
      Answered second (mark + 1) (.ofScope two) ks page ended.1.2 ended.2 ∧
      TaggedBy mark (mark + 1) page ended.2 := by
  have apart : mark ≠ mark + 1 := fun same => by simp at same
  have left := callBeside apart returnsFirst returnsSecond.attached ns others untagged
  have right := callBeside apart.symm returnsSecond returnsFirst.attached ks strange untagged
  obtain ⟨⟨⟨_, firstEnded⟩, tagged⟩, ⟨⟨_, secondEnded⟩, _⟩⟩ :=
    (Dialogue.Beside.mk left right).interleave .refl .refl (fun _ _ _ => .trans) (fun _ _ _ => .trans) turns
  exact ⟨firstEnded, secondEnded, tagged⟩

theorem disjointCallsApart (turns : List Turn) (mark : Tag.Mark) (untagged : ∀ n, page.tagOf n = none)
    (honest : page.Honest) (reliable : page.Reliable) (returnsFirst : Returns first one page)
    (returnsSecond : Returns second two page) :
    (∀ n, (Client.together turns mark first second page).2.tagOf n = none) ∧
      ((∀ n ∈ one.toList, n ∉ two.toList) →
        (Client.together turns mark first second page).1 =
          ((Client.alone first mark page).1, (Client.alone second (mark + 1) page).1)) := by
  have unused (m : Tag.Mark) : Unused m page := fun n => by rw [untagged n]; rfl
  constructor
  · have none (ns : List Nat) : ∀ n ∈ ([] : List Nat), n ∉ ns := by simp
    obtain ⟨firstEnded, secondEnded, tagged⟩ :=
      endTogether turns mark returnsFirst returnsSecond untagged (none _) (none _)
    have firstCleared := firstEnded.cleared.resolve_right
      fun ⟨unsure, _⟩ => unsure (returnsFirst.sure reliable)
    have secondCleared := secondEnded.cleared.resolve_right
      fun ⟨unsure, _⟩ => unsure (returnsSecond.sure reliable)
    exact tagged.cleared firstCleared secondCleared
  · intro disjoint
    obtain ⟨firstEnded, secondEnded, _⟩ := endTogether turns mark returnsFirst returnsSecond
      untagged disjoint fun n inside there => disjoint n there inside
    have firstReturned := (firstEnded.returned returnsFirst honest (unused _)).resolve_right
      fun ⟨unreliable, _⟩ => unreliable reliable
    have secondReturned := (secondEnded.returned returnsSecond honest (unused _)).resolve_right
      fun ⟨unreliable, _⟩ => unreliable reliable
    rw [aloneReturns returnsFirst honest reliable (unused _),
      aloneReturns returnsSecond honest reliable (unused _)]
    exact Prod.ext firstReturned secondReturned

end Together

def sharedPage : Server where
  nodes := [.plain, .plain]
  scripts := [("both", ⟨.ok (.list [some 0, some 1]), none⟩),
    ("head", ⟨.ok (.single (some 0)), none⟩), ("tail", ⟨.ok (.single (some 1)), none⟩)]
  fails _ _ := none
  url := ""

theorem sharedReliable : sharedPage.Reliable := ⟨rfl, fun _ _ => rfl, by simp [sharedPage, ServerNode.plain]⟩

theorem sharedHonest : sharedPage.Honest := by simp [Honest, sharedPage, ServerNode.plain]

theorem sharedUntagged (n : Nat) : sharedPage.tagOf n = none := by
  rcases n with _ | _ | n <;> rfl

theorem disjointCallsApartShared :
    (Client.together [.first, .second, .first, .second] 0 "head" "tail" sharedPage).1 =
      (.ok (.one 0), .ok (.one 1)) := by
  have head : Returns "head" (.one 0) sharedPage := ⟨rfl, by decide, by decide, by decide⟩
  have tail : Returns "tail" (.one 1) sharedPage := ⟨rfl, by decide, by decide, by decide⟩
  have apart := disjointCallsApart [.first, .second, .first, .second] 0 sharedUntagged sharedHonest
    sharedReliable head tail
  rw [apart.2 (by decide)]
  decide +kernel

/- The second call writes over a tag after the first one has found the node, and before it reads the tag. -/
theorem sharedNodesReordered :
    sharedPage.Reliable ∧ sharedPage.Honest ∧ (∀ n, sharedPage.tagOf n = none) ∧
      Returns "both" (.many [0, 1]) sharedPage ∧ Returns "head" (.one 0) sharedPage ∧
      (Client.alone "both" 0 sharedPage).1 = .ok (.many [0, 1]) ∧
      (Client.together [.first, .first, .second] 0 "both" "head" sharedPage).1 =
        (.ok (.many [1, 0]), .ok (.one 0)) := by
  have both : Returns "both" (.many [0, 1]) sharedPage := ⟨rfl, by decide, by decide, by decide⟩
  have unused : Unused 0 sharedPage := fun n => by rw [sharedUntagged n]; rfl
  refine ⟨sharedReliable, sharedHonest, sharedUntagged, both, ⟨rfl, by decide, by decide, by decide⟩,
    aloneReturns both sharedHonest sharedReliable unused, ?_⟩
  -- the place of the first node cannot be read any more, so it is taken for the last one
  have run : (Client.together [.first, .first, .second] 0 "both" "head" sharedPage).1 =
      (Client.resultOf (summaryOf (.list [some 0, some 1]))
        (([(UInt64.size - 1, 0), (1, 1)].mergeSort fun p q => p.1 ≤ q.1).map Prod.snd),
      Client.resultOf (summaryOf (.single (some 0)))
        (([(0, 0)].mergeSort fun p q => p.1 ≤ q.1).map Prod.snd)) := rfl
  have last : ([(UInt64.size - 1, 0), (1, 1)].mergeSort fun p q : Nat × Nat => p.1 ≤ q.1) =
      [(1, 1), (UInt64.size - 1, 0)] := by simp [List.mergeSort]
  rw [run, last, List.mergeSort_singleton]
  rfl

end Server

end LocatorPath
