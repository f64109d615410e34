import Mathlib.Data.List.Nodup
import LocatorPath.Proofs.WebDriver.Dialogue
import LocatorPath.Proofs.WebDriver.Tagging

/-! What a call with a mark answers, and which of its tags it leaves behind, when other calls may come
between its commands. The nodes are found in document order, and the places in their tags give back
the order of the script. -/
namespace LocatorPath

def ScriptResult.ofScope : Scope Nat → ScriptResult
  | .one n => .single (some n)
  | .many ns => .list (ns.map some)

theorem Scope.ofScopeItems (scope : Scope Nat) :
    (ScriptResult.ofScope scope).items = scope.toList.map some := by cases scope <;> rfl

theorem Scope.summedUp (scope : Scope Nat) :
    Client.resultOf (Server.summaryOf (.ofScope scope)) scope.toList = .ok scope := by
  cases scope <;> rfl

def Client.alone (source : String) (mark : Tag.Mark) (s : Server) : Except DriverError (Scope Nat) × Server :=
  let ((out, _), last) := ((runScript Server.wire source).run.run mark).run s
  (out, last)

namespace Server

open Client (elementError)

structure Laid (mark : Tag.Mark) (ns : List Nat) (s : Server) : Prop where
  own : ∀ n ∈ ns, s.isAttached n = true →
    s.tagOf n = some (Tag.value (Tag.markText mark) (ns.idxOf n))
  only : ∀ n, isTagged mark (s.tagOf n) = true → n ∈ ns

def Cleared (mark : Tag.Mark) (s : Server) : Prop :=
  ∀ n, s.isAttached n = true → isTagged mark (s.tagOf n) = false

def Unused (mark : Tag.Mark) (s : Server) : Prop := ∀ n, isTagged mark (s.tagOf n) = false

structure Hands (source : String) (result : ScriptResult) (ns : List Nat) (s : Server) : Prop where
  entry : s.scripts.lookup source = some ⟨.ok result, none⟩
  nodes : result.items = ns.map some
  distinct : ns.Nodup
  fits : ns.length ≤ UInt64.size
  honest : s.Honest

structure Sure (source : String) (s : Server) : Prop where
  reliable : s.Reliable
  whole : ∃ result summary,
    s.scripts.lookup source = some ⟨.ok result, summary⟩ ∧ none ∉ result.items

section Stable

variable {mark : Tag.Mark} {ns : List Nat} {source : String} {result : ScriptResult}
  {s later : Server}

theorem Laid.stable (laid : Laid mark ns s) (spared : Spared mark ns s later) : Laid mark ns later := by
  refine ⟨fun n inside attached => ?_, fun n tagged => ?_⟩
  · rw [attachedAlike spared.alike] at attached
    have tag := laid.own n inside attached
    rw [spared.kept n inside (by rw [tag]; exact Tag.ownTagged mark _), tag]
  · rw [spared.old n tagged] at tagged
    exact laid.only n tagged

theorem Cleared.stable (cleared : Cleared mark s) (spared : Spared mark ns s later) :
    Cleared mark later := by
  intro n attached
  rw [attachedAlike spared.alike] at attached
  refine Bool.eq_false_iff.mpr fun tagged => ?_
  rw [spared.old n tagged, cleared n attached] at tagged
  cases tagged

theorem Unused.stable (unused : Unused mark s) (spared : Spared mark ns s later) : Unused mark later := by
  intro n
  refine Bool.eq_false_iff.mpr fun tagged => ?_
  rw [spared.old n tagged, unused n] at tagged
  cases tagged

theorem Hands.alike (hands : Hands source result ns s) (alike : later.bare = s.bare) :
    Hands source result ns later :=
  ⟨scriptsAlike alike ▸ hands.entry, hands.nodes, hands.distinct, hands.fits,
    (honestAlike alike).mpr hands.honest⟩

theorem sureAlike (alike : later.bare = s.bare) : Sure source later ↔ Sure source s := by
  constructor
  · rintro ⟨reliable, whole⟩
    exact ⟨(reliableAlike alike).mp reliable, scriptsAlike alike ▸ whole⟩
  · rintro ⟨reliable, whole⟩
    exact ⟨(reliableAlike alike).mpr reliable, scriptsAlike alike ▸ whole⟩

end Stable

theorem clearedUntag (s : Server) (mark : Tag.Mark) : Cleared mark (s.untag mark) := by
  intro n attached
  rw [attachedAlike (bareUntag s mark)] at attached
  rw [tagOfUntag, attached, Bool.true_and]
  split
  · rfl
  · next other => exact Bool.eq_false_iff.mpr other

/-! ## The order of the nodes that are found -/

def listed (ns : List Nat) (s : Server) : List Nat :=
  (List.range s.size).filter fun n => s.isAttached n && ns.contains n

theorem attachedInside {s : Server} {n : Nat} (attached : s.isAttached n = true) : n < s.size := by
  obtain ⟨node, here, _⟩ := (Option.any_eq_true _ _).mp attached
  exact (List.getElem?_eq_some_iff.mp here).1

theorem taggedWhere (mark : Tag.Mark) (s : Server) :
    s.tagged mark = (List.range s.size).filter fun n => s.isAttached n && isTagged mark (s.tagOf n) := by
  refine List.filter_congr fun n inside => ?_
  obtain ⟨node, here⟩ : ∃ node, s.nodes[n]? = some node :=
    ⟨_, List.getElem?_eq_getElem (List.mem_range.mp inside)⟩
  simp [isAttached, tagOf, here]

theorem taggedListed {mark : Tag.Mark} {ns : List Nat} {s : Server} (laid : Laid mark ns s) :
    s.tagged mark = listed ns s := by
  rw [taggedWhere, listed]
  refine List.filter_congr fun n _ => ?_
  cases attached : s.isAttached n with
  | false => rfl
  | true =>
    have own : isTagged mark (s.tagOf n) = true ↔ n ∈ ns := by
      refine ⟨laid.only n, fun member => ?_⟩
      rw [laid.own n member attached]
      exact Tag.ownTagged mark _
    rw [Bool.true_and, Bool.true_and, Bool.eq_iff_iff, own, List.contains_iff_mem]

section Keys

variable (key : Nat → Nat) (ns : List Nat)

def byKey : List Nat := ((ns.map fun n => (key n, n)).mergeSort fun p q => p.1 ≤ q.1).map Prod.snd

theorem byKeyPerm : (byKey key ns).Perm ns := (Tag.sortedByKey key ns).1

theorem byKeySorted : (byKey key ns).Pairwise fun n k => key n ≤ key k := (Tag.sortedByKey key ns).2

end Keys

theorem placesSorted {ns : List Nat} (distinct : ns.Nodup) (s : Server) :
    byKey ns.idxOf (listed ns s) = ns.filter s.isAttached := by
  have same : (listed ns s).Perm (ns.filter s.isAttached) := by
    refine (List.perm_ext_iff_of_nodup (List.nodup_range.filter _) (distinct.filter _)).mpr fun n => ?_
    simp only [List.mem_filter, List.mem_range, Bool.and_eq_true, List.contains_iff_mem]
    exact ⟨fun inside => ⟨inside.2.2, inside.2.1⟩,
      fun inside => ⟨attachedInside inside.2, inside.2, inside.1⟩⟩
  have rising : ns.Pairwise fun n k => ns.idxOf n ≤ ns.idxOf k := by
    refine List.pairwise_iff_getElem.mpr fun i j hi hj before => ?_
    rw [distinct.idxOf_getElem, distinct.idxOf_getElem]
    exact Nat.le_of_lt before
  -- nodes of the list with the same place are the same node
  have equal (n k : Nat) (_ : n ∈ byKey ns.idxOf (listed ns s)) (inside : k ∈ ns.filter s.isAttached)
      (below : ns.idxOf n ≤ ns.idxOf k) (above : ns.idxOf k ≤ ns.idxOf n) : n = k :=
    ((List.idxOf_inj (List.mem_filter.mp inside).1).mp (Nat.le_antisymm above below)).symm
  exact ((byKeyPerm _ _).trans same).eq_of_pairwise equal (byKeySorted _ _) (rising.filter _)

/-! ## Tagging -/

section Tagging

variable {source : String} {mark : Tag.Mark} {ns : List Nat} {result : ScriptResult} {s : Server}

theorem taggingNodes (entry : s.scripts.lookup source = some ⟨.ok result, none⟩)
    (nodes : result.items = ns.map some) (mark : Tag.Mark) :
    s.runTagging source mark =
      (.ok (.summary (summaryOf result)), (tagItems mark 0 (ns.map some) s).2) := by
  have whole : none ∉ ns.map some := by simp
  have fine := itemsOk mark whole 0 s
  simp only [runTagging, entry, nodes]
  generalize tagItems mark 0 (ns.map some) s = tagged at fine ⊢
  obtain ⟨out, later⟩ := tagged
  cases fine
  rfl

theorem taggingHanded (hands : Hands source result ns s) (mark : Tag.Mark) :
    s.runTagging source mark =
      (.ok (.summary (summaryOf result)), (tagItems mark 0 (ns.map some) s).2) :=
  taggingNodes hands.entry hands.nodes mark

theorem taggingLays (hands : Hands source result ns s) (unused : Unused mark s) :
    Laid mark ns (s.runTagging source mark).2 := by
  have alike := (touchedTagging s source mark).alike
  rw [taggingHanded hands mark] at alike ⊢
  refine ⟨fun n inside attached => ?_, fun n tagged => ?_⟩
  · rw [attachedAlike alike] at attached
    rw [tagOfItems mark hands.distinct, if_pos ⟨inside, attachedInside attached⟩, Nat.zero_add]
  · rw [tagOfItems mark hands.distinct] at tagged
    split at tagged
    · next inside => exact inside.1
    · rw [unused n] at tagged
      cases tagged

theorem taggingAnswers (source : String) (mark : Tag.Mark) (s : Server) :
    (∃ summary, (s.runTagging source mark).1 = .ok (.summary summary)) ∨
      (∃ e, (s.runTagging source mark).1 = .error e) ∧ ¬Sure source s := by
  cases found : s.scripts.lookup source with
  | none =>
    refine .inr ⟨⟨scriptFailure ("unknown script: " ++ source), ?_⟩, ?_⟩
    · simp only [runTagging, found]
    · rintro ⟨_, result, summary, here, _⟩
      simp [found] at here
  | some entry =>
    obtain ⟨result, summary⟩ := entry
    cases result with
    | error message =>
      refine .inr ⟨⟨scriptFailure message, by simp only [runTagging, found]⟩, ?_⟩
      rintro ⟨_, result, summary, here, _⟩
      simp [found] at here
    | ok result =>
      simp only [runTagging, found]
      cases tagged : tagItems mark 0 result.items s with
      | mk out later =>
        cases out with
        | ok fine => exact .inl ⟨_, rfl⟩
        | error e =>
          refine .inr ⟨⟨e, rfl⟩, ?_⟩
          rintro ⟨_, other, summary, here, whole⟩
          rw [found] at here
          cases here
          have fine := itemsOk mark whole 0 s
          rw [tagged] at fine
          cases fine

end Tagging

/-! ## The commands of a call -/

section Call

variable {source : String} {mark : Tag.Mark} {ns : List Nat} {result : ScriptResult}
  {start s : Server} {ready : Prop}

theorem itemsAlike (alike : s.bare = start.bare) (source : String) :
    s.itemsOf source = start.itemsOf source := by
  unfold itemsOf
  rw [scriptsAlike alike]

theorem askGives {β : Type} {pick : Reply Nat → Option β} {c : Command Nat}
    {good : β → Server → Prop} {bad : Prop} (ours : Ours source mark c) (alike : s.bare = start.bare)
    (answer : ∀ later, Spared mark ns s later → ∀ last, Spared mark ns (later.perform c).2 last →
      Dialogue.Ended (fun reply last => ∃ b, pick reply = some b ∧ good b last) bad
        (later.perform c).1 last)
    (trouble : ¬start.Reliable → bad) :
    Dialogue.Gives (Spared mark ns) (Touched mark (start.itemsOf source)) good bad
      (Dialogue.wire.askFor pick c) s := by
  refine .askFor .refl fun later passed => ?_
  have touches := receiveTouches ours later
  rw [itemsAlike (passed.alike.trans alike)] at touches
  refine ⟨touches, fun last more => ?_⟩
  rcases receiveOutcome later c with carried | ⟨⟨e, failed⟩, unreliable⟩
  · have heard : Spared mark ns s (later.heard c) :=
      passed.trans ⟨rfl, fun _ _ _ => rfl, fun _ _ => rfl⟩
    rw [carried] at more ⊢
    exact answer (later.heard c) heard last more
  · have same : later.bare = start.bare := passed.alike.trans alike
    rw [failed]
    exact trouble fun reliable => unreliable ((reliableAlike same).mpr reliable)

theorem tagGives (alike : s.bare = start.bare) (hands : ready → Hands source result ns start)
    (unused : ready → Unused mark s) :
    Dialogue.Gives (Spared mark ns) (Touched mark (start.itemsOf source))
      (fun summary last => last.bare = start.bare ∧
        (ready → summary = summaryOf result ∧ Laid mark ns last))
      (¬Sure source start)
      (Dialogue.wire.askFor Reply.summary? (.tag source mark)) s := by
  refine askGives .tag alike (fun later passed last more => ?_)
    fun unreliable sure => unreliable sure.reliable
  have untouched : later.bare = start.bare := passed.alike.trans alike
  have same : last.bare = later.bare := more.alike.trans (touchedTagging later source mark).alike
  change Dialogue.Ended _ _ (later.runTagging source mark).1 last
  rcases taggingAnswers source mark later with ⟨summary, answered⟩ | ⟨⟨e, failed⟩, unsure⟩
  · rw [answered]
    refine ⟨summary, rfl, same.trans untouched, fun here => ?_⟩
    have handed := (hands here).alike untouched
    have laid := taggingLays handed ((unused here).stable passed)
    rw [taggingHanded handed mark] at answered
    cases answered
    exact ⟨rfl, laid.stable more⟩
  · rw [failed]
    exact fun sure => unsure ((sureAlike untouched).mpr sure)

theorem readHonest (honest : s.Honest) (n : Nat) :
    (s.nodes[n]? >>= fun node => node.shownTag.getD node.tag) = s.tagOf n := by
  obtain absent | ⟨node, here⟩ := Option.eq_none_or_eq_some s.nodes[n]?
  · simp [absent, tagOf]
  · simp [here, tagOf, honest node (List.mem_of_getElem? here)]

theorem placesGive (found : List Nat) (alike : s.bare = start.bare)
    (hands : ready → Hands source result ns start) (laid : ready → Laid mark ns s)
    (members : ready → ∀ n ∈ found, n ∈ ns ∧ start.isAttached n = true) :
    Dialogue.Gives (Spared mark ns) (Touched mark (start.itemsOf source))
      (fun places _ => ready → places = found.map fun n => (ns.idxOf n, n))
      (¬start.Reliable) (Client.readPlaces Dialogue.wire mark found) s := by
  induction found generalizing s with
  | nil => exact .pure fun _ _ _ => rfl
  | cons n rest others =>
    have read : Dialogue.Gives (Spared mark ns) (Touched mark (start.itemsOf source))
        (fun value last => last.bare = start.bare ∧
          (ready → value = some (Tag.value (Tag.markText mark) (ns.idxOf n)) ∧ Laid mark ns last))
        (¬start.Reliable) (Dialogue.wire.askFor Reply.tag? (.readTag n)) s := by
      refine askGives (.read n) alike (fun later passed last more => ?_) fun unreliable => unreliable
      have same : later.bare = start.bare := passed.alike.trans alike
      refine ⟨_, rfl, more.alike.trans same, fun here => ?_⟩
      obtain ⟨inside, attached⟩ := members here n List.mem_cons_self
      have standing := (laid here).stable passed
      rw [← attachedAlike same] at attached
      refine ⟨?_, standing.stable more⟩
      rw [← standing.own n inside attached]
      exact readHonest ((hands here).alike same).honest n
    simp only [Client.readPlaces, Wire.askTagFor]
    refine .bind .refl (.adapt elementError read) fun value last tag => ?_
    have inner := others tag.1 (fun here => (tag.2 here).2) fun here k inside =>
      members here k (List.mem_cons_of_mem n inside)
    refine .bind .refl inner fun places _ given => .pure fun _ _ here => ?_
    have place : ns.idxOf n < UInt64.size :=
      Nat.lt_of_lt_of_le (List.idxOf_lt_length_of_mem (members here n List.mem_cons_self).1)
        (hands here).fits
    rw [(tag.2 here).1, Tag.orderOfValue mark place, given here]
    rfl

/- The finds and reads of a call give the nodes of the result in the order of the script. -/
theorem findGives (alike : s.bare = start.bare) (hands : ready → Hands source result ns start)
    (laid : ready → Laid mark ns s) :
    Dialogue.Gives (Spared mark ns) (Touched mark (start.itemsOf source))
      (fun found _ => ready → found = ns.filter start.isAttached)
      (¬start.Reliable) (Client.findTagged Dialogue.wire mark) s := by
  have find : Dialogue.Gives (Spared mark ns) (Touched mark (start.itemsOf source))
      (fun found last => last.bare = start.bare ∧
        (ready → found = listed ns start ∧ Laid mark ns last))
      (¬start.Reliable) (Dialogue.wire.askFor Reply.elements? (.findTagged mark)) s := by
    refine askGives .find alike (fun later passed last more => ?_) fun unreliable => unreliable
    have same : later.bare = start.bare := passed.alike.trans alike
    refine ⟨_, rfl, more.alike.trans same, fun here => ?_⟩
    have standing := (laid here).stable passed
    refine ⟨?_, standing.stable more⟩
    rw [taggedListed standing, listed, listed, attachedAlike same, sizeAlike same]
  simp only [Client.findTagged, Wire.askElementsFor]
  refine .bind .refl (.adapt _ find) fun found last given => ?_
  have reads := placesGive found given.1 hands (fun here => (given.2 here).2) fun here n inside => by
    rw [(given.2 here).1] at inside
    simpa [listed, and_comm] using (List.mem_filter.mp inside).2
  refine .bind .refl reads fun places _ known => .pure fun _ _ here => ?_
  rw [known here, (given.2 here).1]
  exact placesSorted (hands here).distinct start

theorem untagGives (alike : s.bare = start.bare) :
    Dialogue.Gives (Spared mark ns) (Touched mark (start.itemsOf source))
      (fun _ last => Cleared mark last) (¬start.Reliable)
      (Dialogue.wire (.untag mark)) s := by
  rw [Wire.askAny Dialogue.wire]
  refine askGives .untag alike (fun later passed last more => ?_) fun unreliable => unreliable
  exact ⟨_, rfl, (clearedUntag later mark).stable more⟩

end Call

structure Answered (source : String) (mark : Tag.Mark) (result : ScriptResult) (ns : List Nat)
    (start : Server) (out : Except DriverError (Scope Nat)) (last : Server) : Prop where
  cleared : Cleared mark last ∨ ¬Sure source start ∧ ∃ e, out = .error e
  faithful : Hands source result ns start → Unused mark start →
    out = Client.resultOf (summaryOf result) (ns.filter start.isAttached) ∨
      ¬start.Reliable ∧ ∃ e, out = .error e

theorem Answered.failed {source : String} {mark : Tag.Mark} {result : ScriptResult} {ns : List Nat}
    {start : Server} (unreliable : ¬start.Reliable) (e : DriverError) (last : Server) :
    Answered source mark result ns start (.error e) last :=
  ⟨.inr ⟨fun sure => unreliable sure.reliable, e, rfl⟩, fun _ _ => .inr ⟨unreliable, e, rfl⟩⟩

/- The call is taken apart into its script, its finds and its cleaning. -/
theorem markedKeeps (source : String) (mark : Tag.Mark) (result : ScriptResult) (ns : List Nat)
    (start : Server) :
    (Client.runMarked Dialogue.wire source mark).run.Keeps (Spared mark ns)
      (Touched mark (start.itemsOf source)) (Answered source mark result ns start) start := by
  let ready := Hands source result ns start ∧ Unused mark start
  have hands (here : ready) : Hands source result ns start := here.1
  have unused (here : ready) : Unused mark start := here.2
  unfold Client.runMarked
  simp only [Wire.askSummaryFor]
  rw [ExceptT.run_mk]
  refine .bind .refl (tagGives rfl hands unused) fun summary s tagged => ?_
  cases summary with
  | error e =>
    have unsure : ¬Sure source start := tagged
    intro last passed
    refine ⟨.inr ⟨unsure, _, rfl⟩, fun hands _ => .inr ⟨fun reliable => ?_, _, rfl⟩⟩
    exact unsure ⟨reliable, result, none, hands.entry, by simp [hands.nodes]⟩
  | ok summary =>
    obtain ⟨alike, summed⟩ := tagged
    have laid (here : ready) : Laid mark ns s := (summed here).2
    -- nothing but tags can change in between, so this is still the page that the call began on
    have finds := Dialogue.Keeps.also (fun s => s.bare = start.bare)
      (fun passed same => passed.alike.trans same) (fun changed same => changed.alike.trans same)
      (findGives alike hands laid) alike
    refine .bind .refl finds fun found s ended => ?_
    obtain ⟨searched, same⟩ := ended
    refine .bind .refl (untagGives same) fun untagged s cleaned => ?_
    intro last passed
    cases found with
    | error e => exact .failed searched e last
    | ok found =>
      cases untagged with
      | error e => exact .failed cleaned (Client.scriptError e) last
      | ok reply =>
        have cleared : Cleared mark s := cleaned
        refine ⟨.inl (cleared.stable passed), fun hands unused => .inl ?_⟩
        have listed : found = ns.filter start.isAttached := searched ⟨hands, unused⟩
        rw [(summed ⟨hands, unused⟩).1, ← listed]

theorem scriptKeeps (source : String) (mark : Tag.Mark) (result : ScriptResult) (ns : List Nat)
    (start : Server) :
    ((Client.runScript Dialogue.wire source).run.run mark).Keeps (Spared mark ns)
      (Touched mark (start.itemsOf source))
      (fun out last => out.2 = mark + 1 ∧ Answered source mark result ns start out.1 last) start := by
  rw [Client.runScriptDraws]
  exact .map (fun out => (out, mark + 1))
    ((markedKeeps source mark result ns start).weaken (fun _ _ same => same)
      fun _ _ answered => ⟨rfl, answered⟩)

structure Returns (source : String) (scope : Scope Nat) (s : Server) : Prop where
  entry : s.scripts.lookup source = some ⟨.ok (.ofScope scope), none⟩
  distinct : scope.toList.Nodup
  attached : ∀ n ∈ scope.toList, s.isAttached n = true
  fits : scope.toList.length ≤ UInt64.size

theorem Returns.hands {source : String} {scope : Scope Nat} {s : Server}
    (returns : Returns source scope s) (honest : s.Honest) :
    Hands source (.ofScope scope) scope.toList s :=
  ⟨returns.entry, scope.ofScopeItems, returns.distinct, returns.fits, honest⟩

theorem Returns.itemsOf {source : String} {scope : Scope Nat} {s : Server}
    (returns : Returns source scope s) : s.itemsOf source = scope.toList.map some := by
  rw [Server.itemsOf, returns.entry]
  exact scope.ofScopeItems

theorem Returns.sure {source : String} {scope : Scope Nat} {s : Server}
    (returns : Returns source scope s) (reliable : s.Reliable) : Sure source s :=
  ⟨reliable, .ofScope scope, none, returns.entry, by simp [scope.ofScopeItems]⟩

theorem Answered.returned {source : String} {mark : Tag.Mark} {scope : Scope Nat} {start last : Server}
    {out : Except DriverError (Scope Nat)}
    (answered : Answered source mark (.ofScope scope) scope.toList start out last)
    (returns : Returns source scope start) (honest : start.Honest) (unused : Unused mark start) :
    out = .ok scope ∨ ¬start.Reliable ∧ ∃ e, out = .error e := by
  have ended := answered.faithful (returns.hands honest) unused
  rwa [List.filter_eq_self.mpr returns.attached, scope.summedUp] at ended

end Server

end LocatorPath
