import LocatorPath.Proofs.WebDriver.Recall
import LocatorPath.Proofs.WebDriver.Rounds

/-! What a script call does, command by command, whichever of its commands fail. The tags are taken off last and once,
whether or not the nodes were found, and of two failures the earlier one is told. -/
namespace LocatorPath

namespace Client

open Dialogue (Shows)

variable (source : String) (mark : Tag.Mark)

inductive TagReads : List Nat → List Round → Except DriverError (List (Nat × Nat)) → Prop
  | done : TagReads [] [] (.ok [])
  | fails (n rest e) : TagReads (n :: rest) [⟨.readTag n, .error e⟩] (.error (elementError e))
  | read (n value) {rest rounds out} (others : TagReads rest rounds out) :
      TagReads (n :: rest) (⟨.readTag n, .ok (.tag value)⟩ :: rounds)
        (out.map ((Tag.order (Tag.markText mark) value, n) :: ·))

inductive Search : List Round → Except DriverError (List Nat) → Prop
  | fails (e) : Search [⟨.findTagged mark, .error e⟩]
      (.error (findError (.find .css (Tag.selector (Tag.markText mark))) e))
  | finds {nodes rounds places} (reads : TagReads mark nodes rounds places) :
      Search (⟨.findTagged mark, .ok (.elements nodes)⟩ :: rounds)
        (places.map fun places => (places.mergeSort fun p q => p.1 ≤ q.1).map Prod.snd)

inductive Conduct : List Round → Except DriverError (Scope Nat) → Prop
  | untagged (e) : Conduct [⟨.tag source mark, .error e⟩] (.error (scriptError e))
  | lost (summary) {search e} (searched : Search mark search (.error e)) (answer) :
      Conduct (⟨.tag source mark, .ok (.summary summary)⟩ :: search ++ [⟨.untag mark, answer⟩]) (.error e)
  | uncleaned (summary) {search found} (searched : Search mark search (.ok found)) (e) :
      Conduct (⟨.tag source mark, .ok (.summary summary)⟩ :: search ++ [⟨.untag mark, .error e⟩])
        (.error (scriptError e))
  | answered (summary) {search found} (searched : Search mark search (.ok found)) (reply) :
      Conduct (⟨.tag source mark, .ok (.summary summary)⟩ :: search ++ [⟨.untag mark, .ok reply⟩])
        (resultOf summary found)

theorem readsShows (nodes : List Nat) : Shows (TagReads mark nodes) (readPlaces Dialogue.wire mark nodes).run := by
  induction nodes with
  | nil => exact .pure .done
  | cons n rest ih =>
    simp only [readPlaces, Wire.askTagFor]
    refine Dialogue.adaptShows (fun s reply same => ?_) (.fails n rest) fun reply value picked => ?_
    · cases same
      exact ⟨_, rfl⟩
    · cases reply with
      | tag told =>
        cases picked
        rw [ExceptT.run_bind]
        refine ih.bind fun rounds out others => ?_
        cases out with
        | ok places => exact .pure (by simpa [Except.map] using TagReads.read n value others)
        | error e => exact .pure (by simpa [Except.map] using TagReads.read n value others)
      | _ => cases picked

theorem searchShows : Shows (Search mark) (findTagged Dialogue.wire mark).run := by
  simp only [findTagged, Wire.askElementsFor]
  refine Dialogue.adaptShows (fun s reply same => ?_) .fails fun reply nodes picked => ?_
  · cases same
    exact ⟨_, rfl⟩
  · cases reply with
    | elements found =>
      cases picked
      rw [ExceptT.run_bind]
      refine (readsShows mark nodes).bind fun rounds out reads => ?_
      cases out with
      | ok places => exact .pure (by simpa [Except.map] using Search.finds reads)
      | error e => exact .pure (by simpa [Except.map] using Search.finds reads)
    | _ => cases picked

theorem conductShows : Shows (Conduct source mark) (runMarked Dialogue.wire source mark).run := by
  simp only [runMarked, Wire.askSummaryFor, Wire.askAny Dialogue.wire, ExceptT.run_mk]
  refine Dialogue.askShows (fun s reply same => ?_) (fun e => .pure (.untagged e)) fun reply summary picked => ?_
  · rcases Server.taggingAnswers source mark s with ⟨summary, answered⟩ | ⟨⟨e, failed⟩, _⟩
    · cases answered.symm.trans same
      exact ⟨summary, rfl⟩
    · cases failed.symm.trans same
  · cases reply with
    | summary told =>
      cases picked
      refine (searchShows mark).bind fun search found searched => ?_
      refine Dialogue.askShows (fun s reply _ => ⟨reply, rfl⟩) (fun e => .pure ?_) fun reply taken _ => .pure ?_
      · cases found with
        | error first => exact .lost summary searched (.error e)
        | ok found => exact .uncleaned summary searched e
      · cases found with
        | error first => exact .lost summary searched (.ok reply)
        | ok found => exact .answered summary searched reply
    | _ => cases picked

def rounds (s : Server) : List Round := ((runScript Dialogue.wire source).run.run mark).rounds s

theorem aloneConduct (s : Server) : Conduct source mark (rounds source mark s) (alone source mark s).1 := by
  have drawn : Shows (fun rounds out => Conduct source mark rounds out.1)
      ((runScript Dialogue.wire source).run.run mark) := by
    rw [runScriptDraws]
    exact (conductShows source mark).bind fun rounds out conduct => .pure (by rwa [List.append_nil])
  have finished := drawn s
  rw [← runScriptFinish] at finished
  exact finished

end Client

namespace Server

open Client (TagReads Search Conduct)

theorem aloneTakes (source : String) (mark : Tag.Mark) (s : Server) :
    s.Takes (Client.rounds source mark s) (Client.alone source mark s).2 := by
  have taken := dialogueTakes ((Client.runScript Dialogue.wire source).run.run mark) s
  rw [← Client.runScriptFinish] at taken
  exact taken

variable {source : String} {mark : Tag.Mark} {s last : Server} {rounds : List Round}

theorem lookUnmoved {c : Command Nat} {answer : Except CommandError (Reply Nat)} {between : Server}
    (received : s.receive c = (answer, between)) (looks : ∀ t : Server, (t.perform c).2 = t) : Unmoved s between := by
  have left := receiveState s c
  rw [received, looks] at left
  rcases left with ⟨rfl, _⟩ | rfl | rfl
  · exact ⟨rfl, fun _ => rfl⟩
  · exact unmovedHeard s c
  · exact unmovedHeard s c

theorem readsUnmoved {nodes : List Nat} {out : Except DriverError (List (Nat × Nat))}
    (reads : TagReads mark nodes rounds out) (takes : s.Takes rounds last) : Unmoved s last := by
  induction reads generalizing s with
  | done =>
    cases takes
    exact ⟨rfl, fun _ => rfl⟩
  | fails n rest e =>
    cases takes with
    | round received rest =>
      cases rest
      exact lookUnmoved received fun _ => rfl
  | read n value others ih =>
    cases takes with
    | round received rest => exact (lookUnmoved received fun _ => rfl).trans (ih rest)

theorem searchUnmoved {out : Except DriverError (List Nat)} (search : Search mark rounds out)
    (takes : s.Takes rounds last) : Unmoved s last := by
  cases search with
  | fails e =>
    cases takes with
    | round received rest =>
      cases rest
      exact lookUnmoved received fun _ => rfl
  | finds reads =>
    cases takes with
    | round received rest =>
      exact (lookUnmoved received fun _ => rfl).trans (readsUnmoved reads rest)

theorem answeredDone {c : Command Nat} {reply : Reply Nat} {between : Server}
    (received : s.receive c = (.ok reply, between)) : (s.heard c).perform c = (.ok reply, between) := by
  rw [← s.receiveDone (congrArg Prod.fst received), received]

/- What is read are the tags that stand on the page. A read moves none of them, so those read later stand as they did
at the start. -/
theorem readsHonest {nodes : List Nat} {places : List (Nat × Nat)} (honest : s.Honest)
    (reads : TagReads mark nodes rounds (.ok places)) (takes : s.Takes rounds last) :
    places = nodes.map fun n => (Tag.order (Tag.markText mark) (s.tagOf n), n) := by
  generalize same : (Except.ok places : Except DriverError _) = out at reads
  induction reads generalizing s places with
  | done =>
    cases same
    rfl
  | fails n rest e => cases same
  | @read n value rest rounds out others ih =>
    cases out with
    | error e => cases same
    | ok later =>
      cases same
      cases takes with
      | round received following =>
        have still : Unmoved s _ := lookUnmoved received fun _ => rfl
        have told := congrArg Prod.fst (answeredDone received)
        simp only [perform, Except.ok.injEq, Reply.tag.injEq] at told
        have tag : value = s.tagOf n := told.symm.trans (readHonest honest n)
        rw [ih ((honestAlike still.alike).mpr honest) following rfl, tag]
        simp [still.tags]

theorem searchHonest {found : List Nat} (honest : s.Honest) (search : Search mark rounds (.ok found))
    (takes : s.Takes rounds last) : found = s.recalled mark := by
  generalize same : (Except.ok found : Except DriverError _) = out at search
  cases search with
  | fails e => cases same
  | @finds nodes rounds places reads =>
    cases places with
    | error e => cases same
    | ok places =>
      cases same
      cases takes with
      | round received following =>
        have still : Unmoved s _ := lookUnmoved received fun _ => rfl
        have told := congrArg Prod.fst (answeredDone received)
        simp only [perform, Except.ok.injEq, Reply.elements.injEq] at told
        rw [readsHonest ((honestAlike still.alike).mpr honest) reads following, ← told]
        simp only [still.tags]
        rfl

def nodesUntil : List (Option Nat) → List Nat
  | some n :: rest => n :: nodesUntil rest
  | _ => []

theorem untilWhole {items : List (Option Nat)} (whole : none ∉ items) : items = (nodesUntil items).map some := by
  induction items with
  | nil => rfl
  | cons item rest ih =>
    obtain ⟨here, later⟩ := List.ne_and_not_mem_of_not_mem_cons whole
    cases item with
    | none => exact absurd rfl here
    | some n => exact congrArg (some n :: ·) (ih later)

theorem tagUntil (mark : Tag.Mark) (place : Nat) (items : List (Option Nat)) (s : Server) :
    ((tagItems mark place items s).1 = .ok () ↔ none ∉ items) ∧
      (tagItems mark place items s).2 = (tagItems mark place ((nodesUntil items).map some) s).2 := by
  induction items generalizing place s with
  | nil => simp [tagItems, nodesUntil]
  | cons item rest ih =>
    cases item with
    | none => simp [tagItems, nodesUntil]
    | some n => simpa [tagItems, nodesUntil] using ih (place + 1) _

def ReturnsNodes (source : String) (s : Server) : Prop :=
  ∃ result summary, s.scripts.lookup source = some ⟨.ok result, summary⟩ ∧ none ∉ result.items

theorem taggingUntil (source : String) (mark : Tag.Mark) (s : Server) :
    ((∃ reply, (s.runTagging source mark).1 = .ok reply) ↔ ReturnsNodes source s) ∧
      (s.runTagging source mark).2 = (tagItems mark 0 ((nodesUntil (s.itemsOf source)).map some) s).2 := by
  unfold runTagging itemsOf ReturnsNodes
  cases s.scripts.lookup source with
  | none => simp [tagItems, nodesUntil]
  | some entry =>
    obtain ⟨result, summary⟩ := entry
    cases result with
    | error message => simp [tagItems, nodesUntil]
    | ok result =>
      obtain ⟨whole, page⟩ := tagUntil mark 0 result.items s
      dsimp only
      rw [← page]
      generalize tagItems mark 0 result.items s = tagged at whole
      obtain ⟨out, later⟩ := tagged
      cases out with
      | ok fine => simpa using whole
      | error e => simpa using whole

theorem returnedWhole (returns : ReturnsNodes source s) :
    s.itemsOf source = (nodesUntil (s.itemsOf source)).map some := by
  obtain ⟨result, summary, entry, whole⟩ := returns
  refine untilWhole ?_
  rwa [itemsOf, entry]

/-- A page after its tags of a mark have been taken off: only nodes outside the document can have kept one, and all
other tags are as they were. -/
structure Freed (mark : Tag.Mark) (items : List (Option Nat)) (s last : Server) : Prop where
  left : ∀ n, isTagged mark (last.tagOf n) = true ↔ some n ∈ items ∧ n < s.size ∧ s.isAttached n = false
  taken : ∀ n, some n ∈ items → s.isAttached n = true → last.tagOf n = none
  others : ∀ n, some n ∉ items → last.tagOf n = s.tagOf n

theorem untagFreed {ns : List Nat} {between : Server} (unused : Unused mark s)
    (moved : Unmoved (tagItems mark 0 (ns.map some) s).2 between) :
    Freed mark (ns.map some) s (between.untag mark) := by
  obtain ⟨placeOf, tags, _, _⟩ := tagOfNodes mark ns 0 s
  have alike : between.bare = s.bare := moved.alike.trans (touchedItems mark [] (ns.map some) s).alike
  have tag (n : Nat) : (between.untag mark).tagOf n =
      if n ∈ ns ∧ n < s.size then
        if s.isAttached n then none else some (Tag.value (Tag.markText mark) (placeOf n))
      else s.tagOf n := by
    rw [tagOfUntag, moved.tags, tags, attachedAlike alike]
    by_cases inside : n ∈ ns ∧ n < s.size
    · simp [inside]
    · simp [inside, unused n]
  refine ⟨fun n => ?_, fun n returned attached => ?_, fun n spared => ?_⟩
  · rw [tag]
    by_cases inside : n ∈ ns ∧ n < s.size
    · cases attached : s.isAttached n with
      | true => simp [inside, isTagged]
      | false => simp [inside]
    · have outside : some n ∈ ns.map some → ¬n < s.size := fun returned bound => inside ⟨by simpa using returned, bound⟩
      rw [if_neg inside, unused n]
      exact iff_of_false Bool.false_ne_true fun kept => outside kept.1 kept.2.1
  · have inside : n ∈ ns := by simpa using returned
    rw [tag, if_pos ⟨inside, attachedInside attached⟩, if_pos attached]
  · have outside : n ∉ ns := by simpa using spared
    rw [tag, if_neg fun inside => outside inside.1]

section Calls

variable {summary : Reply Nat} {search : List Round} {answer : Except CommandError (Reply Nat)}
  {found : Except DriverError (List Nat)}

theorem callTakes (searched : Search mark search found)
    (takes : s.Takes (⟨.tag source mark, .ok summary⟩ :: search ++ [⟨.untag mark, answer⟩]) last) :
    ∃ between, (s.heard (.tag source mark)).runTagging source mark = (.ok summary, between) ∧
      ∃ later, between.Takes search later ∧ Unmoved between later ∧ later.receive (.untag mark) = (answer, last) := by
  cases takes with
  | @round _ _ _ between _ _ received rest =>
    obtain ⟨later, first, second⟩ := takesAppend rest
    cases second with
    | round cleaned rest =>
      cases rest
      exact ⟨between, answeredDone received, later, first, searchUnmoved searched first, cleaned⟩

theorem callFreed {reply : Reply Nat} (unused : Unused mark s) (searched : Search mark search found)
    (takes : s.Takes (⟨.tag source mark, .ok summary⟩ :: search ++ [⟨.untag mark, .ok reply⟩]) last) :
    Freed mark (s.itemsOf source) s last := by
  obtain ⟨between, tagged, later, _, moved, cleaned⟩ := callTakes searched takes
  have off : (later.heard (.untag mark)).untag mark = last := congrArg Prod.snd (answeredDone cleaned)
  obtain ⟨answers, page⟩ := taggingUntil source mark (s.heard (.tag source mark))
  rw [tagged] at answers page
  have returned : s.itemsOf source = _ := returnedWhole (s := s.heard (.tag source mark)) (answers.mp ⟨_, rfl⟩)
  dsimp only at page
  rw [page] at moved
  have freed : Freed mark _ (s.heard (.tag source mark)) _ :=
    untagFreed unused (moved.trans (unmovedHeard later (.untag mark)))
  rw [returned, ← off]
  exact ⟨freed.left, freed.taken, freed.others⟩

theorem callRecalls {result : ScriptResult} {ns nodes : List Nat}
    (entry : s.scripts.lookup source = some ⟨.ok result, none⟩) (items : result.items = ns.map some)
    (fits : ns.length ≤ UInt64.size) (honest : s.Honest) (searched : Search mark search (.ok nodes))
    (takes : s.Takes (⟨.tag source mark, .ok summary⟩ :: search ++ [⟨.untag mark, answer⟩]) last) :
    summary = .summary (summaryOf result) ∧ Recalls mark ns nodes s := by
  obtain ⟨between, tagged, later, first, _, _⟩ := callTakes searched takes
  have heard : (s.heard (.tag source mark)).runTagging source mark = _ :=
    taggingNodes (s := s.heard (.tag source mark)) entry items mark
  rw [heard] at tagged
  cases tagged
  have alike := (touchedItems mark [] (ns.map some) (s.heard (.tag source mark))).alike
  have nodes : nodes = _ := searchHonest ((honestAlike alike).mpr honest) searched first
  obtain ⟨members, order⟩ := recalledNodes fits mark (s.heard (.tag source mark))
  rw [nodes]
  exact ⟨rfl, recalledNodup _ mark, members, order⟩

end Calls

end Server

namespace Client

variable {source : String} {mark : Tag.Mark} {rounds : List Round}

theorem readsFail {nodes : List Nat} {e : DriverError} (reads : TagReads mark nodes rounds (.error e)) :
    ∃ round ∈ rounds, ¬ round.Succeeds := by
  generalize same : (Except.error e : Except DriverError (List (Nat × Nat))) = out at reads
  induction reads with
  | done => cases same
  | fails n rest e => exact ⟨_, List.mem_singleton_self _, nofun⟩
  | @read n value rest rounds out others ih =>
    cases out with
    | ok places => cases same
    | error other =>
      cases same
      obtain ⟨round, inside, fails⟩ := ih rfl
      exact ⟨round, List.mem_cons_of_mem _ inside, fails⟩

theorem searchFails {e : DriverError} (search : Search mark rounds (.error e)) :
    ∃ round ∈ rounds, ¬ round.Succeeds := by
  generalize same : (Except.error e : Except DriverError (List Nat)) = out at search
  cases search with
  | fails e => exact ⟨_, List.mem_singleton_self _, nofun⟩
  | @finds nodes rounds places reads =>
    cases places with
    | ok places => cases same
    | error e =>
      obtain ⟨round, inside, fails⟩ := readsFail reads
      exact ⟨round, List.mem_cons_of_mem _ inside, fails⟩

theorem conductSucceeds {out : Except DriverError (Scope Nat)} (conduct : Conduct source mark rounds out)
    (succeeds : ∀ round ∈ rounds, round.Succeeds) : ∃ summary search found reply, Search mark search (.ok found) ∧
      rounds = ⟨.tag source mark, .ok (.summary summary)⟩ :: search ++ [⟨.untag mark, .ok reply⟩] ∧
      out = resultOf summary found := by
  cases conduct with
  | untagged e => exact nomatch succeeds _ (List.mem_singleton_self _)
  | lost summary searched answer =>
    obtain ⟨round, inside, fails⟩ := searchFails searched
    exact absurd (succeeds round (by simp [inside])) fails
  | uncleaned summary searched e => exact nomatch succeeds ⟨.untag mark, .error e⟩ (by simp)
  | answered summary searched reply => exact ⟨summary, _, _, reply, searched, rfl, rfl⟩

theorem conductParts {out : Except DriverError (Scope Nat)} (conduct : Conduct source mark rounds out) :
    (∃ e, rounds = [⟨.tag source mark, .error e⟩] ∧ out = .error (scriptError e)) ∨
      ∃ summary search found answer, Search mark search found ∧
        rounds = ⟨.tag source mark, .ok (.summary summary)⟩ :: search ++ [⟨.untag mark, answer⟩] := by
  cases conduct with
  | untagged e => exact .inl ⟨e, rfl, rfl⟩
  | lost summary searched answer => exact .inr ⟨summary, _, _, answer, searched, rfl⟩
  | uncleaned summary searched e => exact .inr ⟨summary, _, _, .error e, searched, rfl⟩
  | answered summary searched reply => exact .inr ⟨summary, _, _, .ok reply, searched, rfl⟩

/- Whatever fails, a call does what is said of it. Where its last command takes the tags off, no node of the document
keeps one. Where all commands succeed, the nodes that it gives are those of the script, if they can be told apart and
found. -/
theorem scriptConducted (source : String) (mark : Tag.Mark) (s : Server) :
    Conduct source mark (Client.rounds source mark s) (alone source mark s).1 ∧
      s.Takes (Client.rounds source mark s) (alone source mark s).2 ∧
      (s.reachable = true →
        (alone source mark s).2.log = s.log ++ (Client.rounds source mark s).map Round.command) ∧
      (∀ reply, (Client.rounds source mark s).getLast? = some ⟨.untag mark, .ok reply⟩ → s.Unused mark →
        Server.Freed mark (s.itemsOf source) s (alone source mark s).2) ∧
      ∀ result ns, s.scripts.lookup source = some ⟨.ok result, none⟩ → result.items = ns.map some →
        ns.length ≤ UInt64.size → s.Honest → (∀ round ∈ Client.rounds source mark s, round.Succeeds) →
        ∃ found, (alone source mark s).1 = resultOf (Server.summaryOf result) found ∧
          Server.Recalls mark ns found s ∧
          (found = ns ↔ ns.Nodup ∧ (∀ n ∈ ns, s.isAttached n = true) ∧
            ∀ n, s.isAttached n = true → Server.isTagged mark (s.tagOf n) = true → n ∈ ns) := by
  have conduct := aloneConduct source mark s
  have takes := Server.aloneTakes source mark s
  refine ⟨conduct, takes, Server.takesLog takes, fun reply cleaned unused => ?_,
    fun result ns entry items fits honest succeeds => ?_⟩
  · rcases conductParts conduct with ⟨e, rounds, _⟩ | ⟨summary, search, found, answer, searched, rounds⟩
    · simp [rounds] at cleaned
    · obtain rfl : answer = .ok reply := by simpa [rounds, List.getLast?_cons] using cleaned
      rw [rounds] at takes
      exact Server.callFreed unused searched takes
  · obtain ⟨summary, search, found, reply, searched, rounds, out⟩ := conductSucceeds conduct succeeds
    rw [rounds] at takes
    obtain ⟨told, recalls⟩ := Server.callRecalls entry items fits honest searched takes
    cases told
    exact ⟨found, out, recalls, recalls.exact⟩

def repeatingPage (fails : Nat → Bool) : Server where
  nodes := [.plain, .plain]
  scripts := [("twice", ⟨.ok (.list [some 0, some 0]), none⟩), ("both", ⟨.ok (.list [some 1, some 0]), none⟩)]
  fails count _ := if fails count then some ⟨.unexpected, false⟩ else none
  url := ""

theorem repeatingHonest (fails : Nat → Bool) : (repeatingPage fails).Honest := by
  simp [Server.Honest, repeatingPage, ServerNode.plain]

theorem scriptConductedRepeating :
    (alone "both" 0 (repeatingPage (· == 2))).1 = .error (.other CommandError.unexpected.message) ∧
      Server.Freed 0 [some 1, some 0] (repeatingPage (· == 2)) (alone "both" 0 (repeatingPage (· == 2))).2 ∧
      ∃ found, found = [1, 0] ∧ (alone "both" 0 (repeatingPage fun _ => false)).1 = .ok (.many found) := by
  have unused (n : Nat) : Server.isTagged 0 ((repeatingPage (· == 2)).tagOf n) = false := by
    rcases n with _ | _ | n <;> rfl
  have cleaned : (Client.rounds "both" 0 (repeatingPage (· == 2))).getLast? = some ⟨.untag 0, .ok .done⟩ := by rfl
  have whole := (scriptConducted "both" 0 (repeatingPage fun _ => false)).2.2.2.2 (.list [some 1, some 0]) [1, 0]
    rfl rfl (by decide) (repeatingHonest _) (by decide +kernel)
  obtain ⟨found, out, _, same⟩ := whole
  have freed := (scriptConducted "both" 0 (repeatingPage (· == 2))).2.2.2.1 _ cleaned unused
  refine ⟨by decide +kernel, freed, found, ?_, out⟩
  refine same.mpr ⟨by decide, by decide, fun n attached _ => ?_⟩
  rcases n with _ | _ | n
  · decide
  · decide
  · cases attached

theorem repeatedNodeLost :
    (∀ round ∈ Client.rounds "twice" 0 (repeatingPage fun _ => false), round.Succeeds) ∧
      (repeatingPage fun _ => false).Honest ∧
      (alone "twice" 0 (repeatingPage fun _ => false)).1 = .ok (.many [0]) := by
  exact ⟨by decide +kernel, repeatingHonest _, by decide +kernel⟩

end Client

end LocatorPath
