import Mathlib.Data.List.Dedup
import LocatorPath.Proofs.WebDriver.Marked

/-! What a script gives back on a page that may have tags already. A node holds one tag, so one that is returned
twice is found once, at its last place. A node that is not in the document is not found, and one that an earlier
session left with a tag of the same mark is found too. -/
namespace LocatorPath

variable {β : Type}

namespace Dialogue

abbrev Alone {ε : Type} (good : β → Server → Prop) (x : ExceptT ε (Dialogue Nat) β) (s : Server) : Prop :=
  Gives Eq (fun _ _ => True) good False x s

end Dialogue

namespace Server

open Client (elementError)
open Dialogue (Alone)

variable {s later : Server} {mark : Tag.Mark}

structure Unmoved (s later : Server) : Prop where
  alike : later.bare = s.bare
  tags : ∀ n, later.tagOf n = s.tagOf n

theorem Unmoved.trans {last : Server} (first : Unmoved s later) (second : Unmoved later last) : Unmoved s last :=
  ⟨second.alike.trans first.alike, fun n => (second.tags n).trans (first.tags n)⟩

theorem unmovedHeard (s : Server) (c : Command Nat) : Unmoved s (s.heard c) := ⟨rfl, fun _ => rfl⟩

section Commands

theorem askAlone {pick : Reply Nat → Option β} {c : Command Nat} {good : β → Server → Prop} {reply : Reply Nat}
    {b : β} (reliable : s.Reliable) (answer : ((s.heard c).perform c).1 = .ok reply)
    (picked : pick reply = some b) (holds : good b ((s.heard c).perform c).2) :
    Alone good (Dialogue.wire.askFor pick c) s := by
  refine .askFor (fun _ => rfl) ?_
  rintro _ rfl
  have carried := (receiveOutcome s c).resolve_right fun failed => failed.2 reliable
  rw [carried]
  refine ⟨trivial, ?_⟩
  rintro _ rfl
  rw [answer]
  exact ⟨b, picked, holds⟩

theorem placesAlone (mark : Tag.Mark) (found : List Nat) (reliable : s.Reliable) (honest : s.Honest) :
    Alone (fun places last => places = found.map (fun n => (Tag.order (Tag.markText mark) (s.tagOf n), n)) ∧
      Unmoved s last) (Client.readPlaces Dialogue.wire mark found) s := by
  induction found generalizing s with
  | nil =>
    refine .pure ?_
    rintro _ rfl
    exact ⟨rfl, rfl, fun _ => rfl⟩
  | cons n rest others =>
    simp only [Client.readPlaces, Wire.askTagFor]
    have read : Alone (fun value last => value = s.tagOf n ∧ Unmoved s last)
        (Dialogue.wire.askFor Reply.tag? (.readTag n)) s :=
      askAlone reliable rfl rfl ⟨readHonest honest n, unmovedHeard s _⟩
    refine .bind (fun _ => rfl) (.adapt elementError read) fun value between known => ?_
    obtain ⟨rfl, still⟩ := known
    have inner := others ((reliableAlike still.alike).mpr reliable) ((honestAlike still.alike).mpr honest)
    refine .bind (fun _ => rfl) inner fun places last given => .pure ?_
    rintro _ rfl
    simp [given.1, still.tags, still.trans given.2]

def recalled (s : Server) (mark : Tag.Mark) : List Nat :=
  byKey (fun n => Tag.order (Tag.markText mark) (s.tagOf n)) (s.tagged mark)

theorem findAlone (mark : Tag.Mark) (reliable : s.Reliable) (honest : s.Honest) :
    Alone (fun found last => found = s.recalled mark ∧ Unmoved s last)
      (Client.findTagged Dialogue.wire mark) s := by
  simp only [Client.findTagged, Wire.askElementsFor]
  have find : Alone (fun found last => found = s.tagged mark ∧ Unmoved s last)
      (Dialogue.wire.askFor Reply.elements? (.findTagged mark)) s :=
    askAlone reliable rfl rfl ⟨rfl, unmovedHeard s _⟩
  refine .bind (fun _ => rfl) (.adapt _ find) fun found between given => ?_
  obtain ⟨rfl, still⟩ := given
  have reads := placesAlone mark (s.tagged mark) ((reliableAlike still.alike).mpr reliable)
    ((honestAlike still.alike).mpr honest)
  refine .bind (fun _ => rfl) reads fun places last known => .pure ?_
  rintro _ rfl
  refine ⟨?_, still.trans known.2⟩
  simp only [known.1, still.tags]
  rfl

theorem untagAlone (mark : Tag.Mark) (reliable : s.Reliable) :
    Alone (fun _ _ => True) (Dialogue.wire (.untag mark)) s := by
  rw [Wire.askAny Dialogue.wire]
  exact askAlone reliable rfl rfl trivial

theorem markedAlone {source : String} {result : ScriptResult} {ns : List Nat} (mark : Tag.Mark)
    (entry : s.scripts.lookup source = some ⟨.ok result, none⟩) (nodes : result.items = ns.map some)
    (reliable : s.Reliable) (honest : s.Honest) :
    (Client.runMarked Dialogue.wire source mark).run.Keeps Eq (fun _ _ => True)
      (fun out _ => out = Client.resultOf (summaryOf result)
        (((s.heard (.tag source mark)).runTagging source mark).2.recalled mark)) s := by
  let heard := s.heard (.tag source mark)
  have alike : (heard.runTagging source mark).2.bare = s.bare := (touchedTagging heard source mark).alike
  unfold Client.runMarked
  simp only [Wire.askSummaryFor]
  rw [ExceptT.run_mk]
  have tag : Alone (fun summary last => summary = summaryOf result ∧ last = (heard.runTagging source mark).2)
      (Dialogue.wire.askFor Reply.summary? (.tag source mark)) s := by
    have answer : heard.runTagging source mark = _ := taggingNodes (s := heard) entry nodes mark
    exact askAlone reliable (congrArg Prod.fst answer) rfl ⟨rfl, rfl⟩
  refine .bind (fun _ => rfl) tag fun summary between tagged => ?_
  cases summary with
  | error e => exact absurd tagged id
  | ok summary =>
    obtain ⟨rfl, rfl⟩ := tagged
    have finds := findAlone mark ((reliableAlike alike).mpr reliable) ((honestAlike alike).mpr honest)
    refine .bind (fun _ => rfl) finds fun found last given => ?_
    cases found with
    | error e => exact absurd given id
    | ok found =>
      obtain ⟨rfl, more⟩ := given
      have again : last.bare = s.bare := more.alike.trans alike
      refine .bind (fun _ => rfl) (untagAlone mark ((reliableAlike again).mpr reliable)) fun untagged _ cleaned => ?_
      cases untagged with
      | error e => exact absurd cleaned id
      | ok reply =>
        rintro _ rfl
        rfl

end Commands

section Places

/- A node that is returned more than once keeps its last place. The induction is on the nodes that are still to
be tagged: what comes later writes over what came before. -/
theorem tagOfNodes (mark : Tag.Mark) (ns : List Nat) (place : Nat) (s : Server) :
    ∃ placeOf : Nat → Nat,
      (∀ n, (tagItems mark place (ns.map some) s).2.tagOf n =
        if n ∈ ns ∧ n < s.size then some (Tag.value (Tag.markText mark) (placeOf n)) else s.tagOf n) ∧
      (∀ n ∈ ns, place ≤ placeOf n ∧ placeOf n < place + ns.length) ∧
      ns.dedup.Pairwise fun n k => placeOf n < placeOf k := by
  induction ns generalizing place s with
  | nil => exact ⟨id, by simp [tagItems], by simp, by simp⟩
  | cons m rest others =>
    obtain ⟨placeOf, tags, bounds, order⟩ :=
      others (place + 1) (s.setTag m (some (Tag.value (Tag.markText mark) place)))
    simp only [List.map_cons, tagItems, tags, sizeSet, tagOfSet]
    by_cases again : m ∈ rest
    · refine ⟨placeOf, fun n => ?_, fun n inside => ?_, ?_⟩
      · by_cases same : n = m <;> by_cases inside : m < s.size <;> simp [same, again, inside]
      · have member : n ∈ rest := by
          rcases List.mem_cons.mp inside with rfl | member
          · exact again
          · exact member
        have := bounds n member
        simp only [List.length_cons]
        omega
      · rwa [List.dedup_cons_of_mem again]
    · refine ⟨fun n => if n = m then place else placeOf n, fun n => ?_, fun n inside => ?_, ?_⟩
      · by_cases same : n = m <;> simp [same, again]
      · by_cases same : n = m
        · simp [same]
        · have := bounds n (by simpa [same] using inside)
          simp only [same, if_false, List.length_cons]
          omega
      · rw [List.dedup_cons_of_notMem again, List.pairwise_cons]
        have other (n : Nat) (inside : n ∈ rest.dedup) : n ≠ m := fun same =>
          again (same ▸ List.mem_dedup.mp inside)
        refine ⟨fun n inside => ?_, order.imp_of_mem fun left right less => ?_⟩
        · have := bounds n (List.mem_dedup.mp inside)
          simp only [other n inside, if_true, if_false]
          omega
        · simpa [other _ left, other _ right] using less

theorem recalledMember {n : Nat} :
    n ∈ s.recalled mark ↔ s.isAttached n = true ∧ isTagged mark (s.tagOf n) = true := by
  rw [recalled, (byKeyPerm _ _).mem_iff, taggedWhere, List.mem_filter, List.mem_range, Bool.and_eq_true]
  exact and_iff_right_of_imp fun both => attachedInside both.1

theorem recalledNodup (s : Server) (mark : Tag.Mark) : (s.recalled mark).Nodup := by
  rw [recalled, (byKeyPerm _ _).nodup_iff, taggedWhere]
  exact List.nodup_range.filter _

theorem recalledNodes {ns : List Nat} (fits : ns.length ≤ UInt64.size) (mark : Tag.Mark) (s : Server) :
    let found := (tagItems mark 0 (ns.map some) s).2.recalled mark
    (∀ n, n ∈ found ↔ s.isAttached n = true ∧ (n ∈ ns ∨ isTagged mark (s.tagOf n) = true)) ∧
      found.filter (· ∈ ns) = ns.dedup.filter s.isAttached := by
  obtain ⟨placeOf, tags, bounds, order⟩ := tagOfNodes mark ns 0 s
  have alike : (tagItems mark 0 (ns.map some) s).2.bare = s.bare := (touchedItems mark [] (ns.map some) s).alike
  generalize (tagItems mark 0 (ns.map some) s).2 = later at tags alike
  intro found
  have member (n : Nat) : n ∈ found ↔ s.isAttached n = true ∧ (n ∈ ns ∨ isTagged mark (s.tagOf n) = true) := by
    rw [recalledMember, attachedAlike alike, tags]
    refine and_congr_right fun attached => ?_
    by_cases inside : n ∈ ns <;> simp [inside, attachedInside attached]
  have place (n : Nat) (here : n ∈ found.filter (· ∈ ns)) :
      Tag.order (Tag.markText mark) (later.tagOf n) = placeOf n := by
    obtain ⟨inside, returned⟩ := List.mem_filter.mp here
    have returned : n ∈ ns := of_decide_eq_true returned
    have attached := ((member n).mp inside).1
    rw [tags, if_pos ⟨returned, attachedInside attached⟩, Tag.orderOfValue mark]
    have := (bounds n returned).2
    omega
  have sorted : (found.filter (· ∈ ns)).Pairwise fun n k => placeOf n ≤ placeOf k := by
    refine ((byKeySorted _ _).filter _).imp_of_mem fun {n k} left right below => ?_
    rwa [place n left, place k right] at below
  have apart : (ns.dedup.map placeOf).Nodup := List.pairwise_map.mpr (order.imp Nat.ne_of_lt)
  have equal (n k : Nat) (left : n ∈ found.filter (· ∈ ns)) (right : k ∈ ns.dedup.filter s.isAttached)
      (below : placeOf n ≤ placeOf k) (above : placeOf k ≤ placeOf n) : n = k := by
    have first : n ∈ ns.dedup := List.mem_dedup.mpr (of_decide_eq_true (List.mem_filter.mp left).2)
    exact List.inj_on_of_nodup_map apart first (List.mem_filter.mp right).1 (Nat.le_antisymm below above)
  -- both lists hold the same nodes in the order of their last places, so they are one list
  have same : (found.filter (· ∈ ns)).Perm (ns.dedup.filter s.isAttached) := by
    refine (List.perm_ext_iff_of_nodup ((recalledNodup later mark).filter _)
      ((List.nodup_dedup ns).filter _)).mpr fun n => ?_
    rw [List.mem_filter, List.mem_filter, member, decide_eq_true_eq, List.mem_dedup]
    exact ⟨fun ⟨⟨attached, _⟩, inside⟩ => ⟨inside, attached⟩,
      fun ⟨inside, attached⟩ => ⟨⟨attached, .inl inside⟩, inside⟩⟩
  exact ⟨member, same.eq_of_pairwise equal sorted ((order.imp Nat.le_of_lt).filter _)⟩

end Places

structure Recalls (mark : Tag.Mark) (ns found : List Nat) (s : Server) : Prop where
  once : found.Nodup
  members : ∀ n, n ∈ found ↔ s.isAttached n = true ∧ (n ∈ ns ∨ isTagged mark (s.tagOf n) = true)
  order : found.filter (· ∈ ns) = ns.dedup.filter s.isAttached

theorem Recalls.exact {ns found : List Nat} (recalls : Recalls mark ns found s) :
    found = ns ↔ ns.Nodup ∧ (∀ n ∈ ns, s.isAttached n = true) ∧
      ∀ n, s.isAttached n = true → isTagged mark (s.tagOf n) = true → n ∈ ns := by
  constructor
  · rintro rfl
    exact ⟨recalls.once, fun n inside => ((recalls.members n).mp inside).1,
      fun n attached tagged => (recalls.members n).mpr ⟨attached, .inr tagged⟩⟩
  · rintro ⟨distinct, attached, own⟩
    have whole : found.filter (· ∈ ns) = found := by
      refine List.filter_eq_self.mpr fun n inside => decide_eq_true ?_
      obtain ⟨here, returned | tagged⟩ := (recalls.members n).mp inside
      · exact returned
      · exact own n here tagged
    rw [← whole, recalls.order, distinct.dedup, List.filter_eq_self.mpr attached]

section Calls

variable {source : String} {scope : Scope Nat}

theorem aloneRecalls (mark : Tag.Mark) (entry : s.scripts.lookup source = some ⟨.ok (.ofScope scope), none⟩)
    (fits : scope.toList.length ≤ UInt64.size) (reliable : s.Reliable) (honest : s.Honest) :
    ∃ found, Recalls mark scope.toList found s ∧
      (Client.alone source mark s).1 = Client.resultOf (summaryOf (.ofScope scope)) found := by
  let heard := s.heard (.tag source mark)
  let found := (tagItems mark 0 (scope.toList.map some) heard).2.recalled mark
  have keeps : ((Client.runScript Dialogue.wire source).run.run mark).Keeps Eq (fun _ _ => True)
      (fun out _ => out.1 = Client.resultOf (summaryOf (.ofScope scope)) found) s := by
    have marked := markedAlone mark entry scope.ofScopeItems reliable honest
    rw [taggingNodes (s := heard) entry scope.ofScopeItems mark] at marked
    rw [Client.runScriptDraws]
    exact .map (fun out => (out, mark + 1)) marked
  have finished := (keeps.finish (fun _ => rfl) (fun _ => trivial) fun _ _ _ _ _ => trivial).1
  rw [← Client.runScriptFinish] at finished
  obtain ⟨members, order⟩ := recalledNodes fits mark heard
  exact ⟨found, ⟨recalledNodup _ mark, members, order⟩, finished⟩

/- A call gives each node of its script once, in the order of their last places, without those that are not in
the document, and with those that already have a tag of its mark. So it gives the list of its script just when
there are none of these. -/
theorem returnedNodesRecalled (mark : Tag.Mark) (entry : s.scripts.lookup source = some ⟨.ok (.ofScope scope), none⟩)
    (fits : scope.toList.length ≤ UInt64.size) (reliable : s.Reliable) (honest : s.Honest) :
    (∃ found, Recalls mark scope.toList found s ∧
      (Client.alone source mark s).1 = Client.resultOf (summaryOf (.ofScope scope)) found) ∧
    ∀ ns, scope = .many ns → ((Client.alone source mark s).1 = .ok (.many ns) ↔
      ns.Nodup ∧ (∀ n ∈ ns, s.isAttached n = true) ∧
        ∀ n, s.isAttached n = true → isTagged mark (s.tagOf n) = true → n ∈ ns) := by
  have recalled := aloneRecalls mark entry fits reliable honest
  refine ⟨recalled, ?_⟩
  rintro ns rfl
  obtain ⟨found, recalls, answer⟩ := recalled
  rw [answer]
  have list : Client.resultOf (summaryOf (.ofScope (.many ns))) found = .ok (.many found) := rfl
  have equal : (Except.ok (.many found) : Except DriverError (Scope Nat)) = .ok (.many ns) ↔ found = ns := by
    rw [Except.ok.injEq, Scope.many.injEq]
  rw [list, equal]
  exact recalls.exact

def usedPage : Server where
  nodes := [.plain, {ServerNode.plain with tag := some "0-7"}, {ServerNode.plain with attached := false}]
  scripts := [("first", ⟨.ok (.list [some 0]), none⟩), ("twice", ⟨.ok (.list [some 0, some 0]), none⟩),
    ("loose", ⟨.ok (.list [some 2, some 0]), none⟩)]
  fails _ _ := none
  url := ""

theorem usedReliable : usedPage.Reliable := ⟨rfl, fun _ _ => rfl, by simp [usedPage, ServerNode.plain]⟩

theorem usedHonest : usedPage.Honest := by simp [Honest, usedPage, ServerNode.plain]

theorem returnedNodesRecalledUsed : (Client.alone "first" 1 usedPage).1 = .ok (.many [0]) := by
  refine ((returnedNodesRecalled 1 rfl (by decide) usedReliable usedHonest).2 [0] rfl).mpr ?_
  have other (n : Nat) : isTagged 1 (usedPage.tagOf n) = false := by
    rcases n with _ | _ | _ | n
    · rfl
    · decide +kernel
    · rfl
    · rfl
  refine ⟨by decide, by decide, fun n _ tagged => ?_⟩
  rw [other n] at tagged
  cases tagged

theorem usedNodesDiffer :
    usedPage.Reliable ∧ usedPage.Honest ∧
      (Client.alone "first" 0 usedPage).1 = .ok (.many [0, 1]) ∧
      (Client.alone "twice" 1 usedPage).1 = .ok (.many [0]) ∧
      (Client.alone "loose" 1 usedPage).1 = .ok (.many [0]) := by
  refine ⟨usedReliable, usedHonest, ?_, by decide +kernel, by decide +kernel⟩
  -- the tag of the earlier session is read as place 7, so its node comes last
  have run : (Client.alone "first" 0 usedPage).1 = Client.resultOf (summaryOf (.list [some 0]))
      (([(0, 0), (7, 1)].mergeSort fun p q => p.1 ≤ q.1).map Prod.snd) := rfl
  have sorted : ([(0, 0), (7, 1)].mergeSort fun p q : Nat × Nat => p.1 ≤ q.1) = [(0, 0), (7, 1)] := by
    simp [List.mergeSort]
  rw [run, sorted]
  rfl

end Calls

end Server

end LocatorPath
