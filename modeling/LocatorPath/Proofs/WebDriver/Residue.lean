import LocatorPath.Proofs.WebDriver.Conduct

/-! The tags that a call leaves behind on a page that does all that it is told. There are some when the wrapper of the
script stops at something that is no node: the nodes before it have their tags, and nothing is sent to take them off. -/
namespace LocatorPath

namespace Server

open Client (Conduct)

structure Heeds (s : Server) : Prop where
  reachable : s.reachable = true
  succeeds : ∀ count c, s.fails count c = none

variable {source : String} {mark : Tag.Mark} {s later last : Server}

theorem heedsAlike (alike : later.bare = s.bare) (heeds : s.Heeds) : later.Heeds := by
  have reachable : later.reachable = s.reachable := congrArg (fun page => page.reachable) alike
  have fails : later.fails = s.fails := congrArg (fun page => page.fails) alike
  refine ⟨reachable.trans heeds.reachable, fun count c => ?_⟩
  rw [fails]
  exact heeds.succeeds count c

theorem heedsReceive (heeds : s.Heeds) {c : Command Nat} (plain : subject? c = none) :
    s.receive c = (s.heard c).perform c := by
  simp [receive, heeds.reachable, heeds.succeeds, staleFailure?, plain, heard]

/-- A page on which the wrapper of a script has stopped: the nodes that it got to have tags of the call, and all other
tags are as they were. -/
structure HalfTagged (mark : Tag.Mark) (items : List (Option Nat)) (s last : Server) : Prop where
  put : ∀ n ∈ nodesUntil items, n < s.size → isTagged mark (last.tagOf n) = true
  others : ∀ n, n ∉ nodesUntil items → last.tagOf n = s.tagOf n

theorem tagItemsHalf (mark : Tag.Mark) (items : List (Option Nat)) (s : Server) :
    HalfTagged mark items s (tagItems mark 0 ((nodesUntil items).map some) s).2 := by
  obtain ⟨placeOf, tags, _, _⟩ := tagOfNodes mark (nodesUntil items) 0 s
  refine ⟨fun n reached inside => ?_, fun n spared => ?_⟩
  · rw [tags, if_pos ⟨reached, inside⟩]
    exact Tag.ownTagged mark _
  · rw [tags, if_neg fun here => spared here.1]

theorem halfCleared {items : List (Option Nat)} (half : HalfTagged mark items s last) (alike : last.bare = s.bare) :
    Cleared mark last ↔
      ∀ n, s.isAttached n = true → n ∉ nodesUntil items ∧ isTagged mark (s.tagOf n) = false := by
  unfold Cleared
  rw [attachedAlike alike]
  refine forall₂_congr fun n attached => ?_
  by_cases reached : n ∈ nodesUntil items
  · simp [reached, half.put n reached (attachedInside attached)]
  · simp [reached, half.others n reached]

section Calls

variable {rounds : List Round} {out : Except DriverError (Scope Nat)}

theorem heedsTagging (heeds : s.Heeds) (source : String) (mark : Tag.Mark) :
    ((∃ reply, (s.receive (.tag source mark)).1 = .ok reply) ↔ ReturnsNodes source s) ∧
      HalfTagged mark (s.itemsOf source) s (s.receive (.tag source mark)).2 ∧
      (s.receive (.tag source mark)).2.bare = s.bare := by
  rw [heedsReceive heeds (c := .tag source mark) rfl]
  obtain ⟨answers, page⟩ := taggingUntil source mark (s.heard (.tag source mark))
  have half := tagItemsHalf mark (s.itemsOf source) (s.heard (.tag source mark))
  refine ⟨answers, ?_, (touchedTagging (s.heard (.tag source mark)) source mark).alike⟩
  change HalfTagged mark (s.itemsOf source) s ((s.heard (.tag source mark)).runTagging source mark).2
  rw [page]
  exact ⟨half.put, half.others⟩

theorem wholeCleared (heeds : s.Heeds) (returns : ReturnsNodes source s) (conduct : Conduct source mark rounds out)
    (takes : s.Takes rounds last) : Cleared mark last := by
  rcases Client.conductParts conduct with ⟨e, rfl, _⟩ | ⟨summary, search, found, answer, searched, rfl⟩
  · cases takes with
    | round received rest =>
      obtain ⟨reply, answers⟩ := (heedsTagging heeds source mark).1.mpr returns
      exact nomatch (congrArg Prod.fst received).symm.trans answers
  · obtain ⟨between, tagged, later, _, moved, cleaned⟩ := callTakes searched takes
    have alike := (touchedTagging (s.heard (.tag source mark)) source mark).alike
    rw [tagged] at alike
    have heeding : later.Heeds := heedsAlike (s := s) (moved.alike.trans alike) heeds
    rw [heedsReceive heeding rfl] at cleaned
    obtain rfl : (later.heard (.untag mark)).untag mark = last := congrArg Prod.snd cleaned
    exact clearedUntag _ mark

theorem stoppedHalf (heeds : s.Heeds) (stops : ¬ReturnsNodes source s)
    (conduct : Conduct source mark rounds out) (takes : s.Takes rounds last) :
    (∃ message, out = .error (.script message)) ∧ HalfTagged mark (s.itemsOf source) s last ∧ last.bare = s.bare := by
  obtain ⟨answers, half, alike⟩ := heedsTagging heeds source mark
  rcases Client.conductParts conduct with ⟨e, rfl, rfl⟩ | ⟨summary, search, found, answer, searched, rfl⟩
  · cases takes with
    | round received rest =>
      cases rest
      rw [received] at half alike
      exact ⟨⟨_, rfl⟩, half, alike⟩
  · cases takes with
    | round received rest => exact absurd (answers.mp ⟨_, congrArg Prod.fst received⟩) stops

/- On a page that does all that it is told, a call leaves no tag on the document if its script returns nothing but
nodes. Otherwise it ends with an error of the script and leaves the tags on the nodes before the first item that is
no node. -/
theorem tagsLeft (heeds : s.Heeds) (source : String) (mark : Tag.Mark) :
    (ReturnsNodes source s → Cleared mark (Client.alone source mark s).2) ∧
      (¬ReturnsNodes source s → (∃ message, (Client.alone source mark s).1 = .error (.script message)) ∧
        HalfTagged mark (s.itemsOf source) s (Client.alone source mark s).2 ∧
        (Cleared mark (Client.alone source mark s).2 ↔
          ∀ n, s.isAttached n = true → n ∉ nodesUntil (s.itemsOf source) ∧ isTagged mark (s.tagOf n) = false)) := by
  have conduct := Client.aloneConduct source mark s
  have takes := aloneTakes source mark s
  refine ⟨fun returns => wholeCleared heeds returns conduct takes, fun stops => ?_⟩
  obtain ⟨failed, half, alike⟩ := stoppedHalf heeds stops conduct takes
  exact ⟨failed, half, halfCleared half alike⟩

end Calls

def mixedPage : Server where
  nodes := [.plain, .plain]
  scripts := [("mixed", ⟨.ok (.list [some 1, none, some 0]), none⟩), ("nodes", ⟨.ok (.list [some 1, some 0]), none⟩)]
  fails _ _ := none
  url := ""

theorem mixedHeeds : mixedPage.Heeds := ⟨rfl, fun _ _ => rfl⟩

theorem tagsLeftMixed : mixedPage.Heeds ∧ Cleared 0 (Client.alone "nodes" 0 mixedPage).2 :=
  ⟨mixedHeeds, (tagsLeft mixedHeeds "nodes" 0).1 ⟨_, _, rfl, by decide⟩⟩

theorem mixedTagLeft :
    mixedPage.Heeds ∧ (∃ message, (Client.alone "mixed" 0 mixedPage).1 = .error (.script message)) ∧
      (Client.alone "mixed" 0 mixedPage).2.isAttached 1 = true ∧
      (Client.alone "mixed" 0 mixedPage).2.tagOf 1 = some "0-0" ∧ isTagged 0 (some "0-0") = true :=
  ⟨mixedHeeds, ⟨_, rfl⟩, rfl, by decide +kernel, by decide +kernel⟩

end Server

end LocatorPath
