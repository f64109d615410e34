import LocatorPath.Proofs.WebDriver.Dialogue
import LocatorPath.Proofs.WebDriver.Tagging

/-! Dialogues told round by round: each command with the answer that it got. What is shown of the rounds holds with
whatever server, and a server takes all of them one after the other. -/
namespace LocatorPath

variable {β γ : Type}

structure Round where
  command : Command Nat
  answer : Except CommandError (Reply Nat)

def Round.Succeeds (round : Round) : Prop := ∃ reply, round.answer = .ok reply

instance : DecidablePred Round.Succeeds
  | ⟨_, .ok reply⟩ => isTrue ⟨reply, rfl⟩
  | ⟨_, .error _⟩ => isFalse nofun

theorem Server.receiveDone (s : Server) {c : Command Nat} {reply : Reply Nat} (answered : (s.receive c).1 = .ok reply) :
    s.receive c = (s.heard c).perform c := by
  refine (receiveOutcome s c).resolve_right ?_
  rintro ⟨⟨e, failed⟩, _⟩
  exact nomatch failed.symm.trans answered

namespace Dialogue

def rounds : Dialogue Nat β → Server → List Round
  | done _, _ => []
  | ask c next, s =>
    let (answer, s) := s.receive c
    ⟨c, answer⟩ :: (next answer).rounds s

def Shows (good : List Round → β → Prop) (d : Dialogue Nat β) : Prop := ∀ s, good (d.rounds s) (d.finish s).1

namespace Shows

variable {good : List Round → β → Prop} {fine : List Round → γ → Prop}

theorem pure {b : β} (holds : good [] b) : Shows good (Pure.pure b) := fun _ => holds

theorem roundsBind (d : Dialogue Nat β) (next : β → Dialogue Nat γ) (s : Server) :
    (d >>= next).rounds s = d.rounds s ++ (next (d.finish s).1).rounds (d.finish s).2 ∧
      (d >>= next).finish s = (next (d.finish s).1).finish (d.finish s).2 := by
  change (d.bind next).rounds s = _ ∧ (d.bind next).finish s = _
  induction d generalizing s with
  | done b => exact ⟨rfl, rfl⟩
  | ask c following later =>
    obtain ⟨sent, ended⟩ := later (s.receive c).1 (s.receive c).2
    exact ⟨congrArg (_ :: ·) sent, ended⟩

theorem bind {d : Dialogue Nat β} {next : β → Dialogue Nat γ} (first : Shows good d)
    (second : ∀ rounds b, good rounds b → Shows (fun more => fine (rounds ++ more)) (next b)) :
    Shows fine (d >>= next) := by
  intro s
  obtain ⟨sent, ended⟩ := roundsBind d next s
  rw [sent, ended]
  exact second _ _ (first s) _

end Shows

section Asks

variable {c : Command Nat} {pick : Reply Nat → Option β} {fine : List Round → γ → Prop}
  (fits : ∀ s reply, (Server.perform s c).1 = .ok reply → ∃ b, pick reply = some b)

include fits

/- One command and what comes after it. What is taken from the reply is there, as the server answers what it is
asked for. -/
theorem askShows {next : Except CommandError β → Dialogue Nat γ}
    (fails : ∀ e, Shows (fun more => fine (⟨c, .error e⟩ :: more)) (next (.error e)))
    (goes : ∀ reply b, pick reply = some b → Shows (fun more => fine (⟨c, .ok reply⟩ :: more)) (next (.ok b))) :
    Shows fine ((Dialogue.wire.askFor pick c).run >>= next) := by
  intro s
  let following (answer : Except CommandError (Reply Nat)) : Dialogue Nat γ :=
    ExceptT.bindCont (Reply.taken pick) answer >>= next
  change fine (⟨c, (s.receive c).1⟩ :: (following (s.receive c).1).rounds (s.receive c).2)
    ((following (s.receive c).1).finish (s.receive c).2).1
  cases answered : (s.receive c).1 with
  | error e => exact fails e _
  | ok reply =>
    obtain ⟨b, picked⟩ := fits (s.heard c) reply (by rw [← s.receiveDone answered]; exact answered)
    have known : following (.ok reply) = next (.ok b) := by
      simp only [following, ExceptT.bindCont, Reply.taken, picked]
      rfl
    rw [known]
    exact goes reply b picked _

theorem adaptShows {ε : Type} {f : CommandError → ε} {next : β → ExceptT ε (Dialogue Nat) γ}
    {fine : List Round → Except ε γ → Prop} (fails : ∀ e, fine [⟨c, .error e⟩] (.error (f e)))
    (goes : ∀ reply b, pick reply = some b → Shows (fun more => fine (⟨c, .ok reply⟩ :: more)) (next b).run) :
    Shows fine (ExceptT.adapt f (Dialogue.wire.askFor pick c) >>= next).run := by
  have run : (ExceptT.adapt f (Dialogue.wire.askFor pick c)).run =
      Except.mapError f <$> (Dialogue.wire.askFor pick c).run := rfl
  rw [ExceptT.run_bind, run, bind_map_left]
  exact askShows fits (fun e => .pure (fails e)) goes

end Asks

end Dialogue

namespace Server

inductive Takes : Server → List Round → Server → Prop
  | done (s) : Takes s [] s
  | round {s c answer between rounds last} (received : s.receive c = (answer, between))
      (rest : Takes between rounds last) : Takes s (⟨c, answer⟩ :: rounds) last

theorem dialogueTakes {β : Type} (d : Dialogue Nat β) (s : Server) : s.Takes (d.rounds s) (d.finish s).2 := by
  induction d generalizing s with
  | done b => exact .done s
  | ask c next later => exact .round rfl (later _ _)

theorem takesAppend {s last : Server} {front back : List Round} (takes : s.Takes (front ++ back) last) :
    ∃ between, s.Takes front between ∧ between.Takes back last := by
  induction front generalizing s with
  | nil => exact ⟨s, .done s, takes⟩
  | cons round rest ih =>
    cases takes with
    | round received later =>
      obtain ⟨between, first, second⟩ := ih later
      exact ⟨between, .round received first, second⟩

section Logs

theorem tagItemsLog (mark : Tag.Mark) (place : Nat) (items : List (Option Nat)) (s : Server) :
    (tagItems mark place items s).2.log = s.log ∧ (tagItems mark place items s).2.reachable = s.reachable := by
  induction items generalizing place s with
  | nil => exact ⟨rfl, rfl⟩
  | cons item rest ih =>
    cases item with
    | none => exact ⟨rfl, rfl⟩
    | some n => exact ih (place + 1) _

/- Carrying a command out writes nothing to the log: it is written when the command is received. -/
theorem performLog (s : Server) (c : Command Nat) :
    (s.perform c).2.log = s.log ∧ (s.perform c).2.reachable = s.reachable := by
  cases c with
  | find extent n how selector => cases extent <;> exact ⟨rfl, rfl⟩
  | tag source mark =>
    change (s.runTagging source mark).2.log = s.log ∧ (s.runTagging source mark).2.reachable = s.reachable
    unfold runTagging
    cases s.scripts.lookup source with
    | none => exact ⟨rfl, rfl⟩
    | some entry =>
      obtain ⟨result, summary⟩ := entry
      cases result with
      | error message => exact ⟨rfl, rfl⟩
      | ok result =>
        have tagged := tagItemsLog mark 0 result.items s
        dsimp only
        split <;> next same => simpa [same] using tagged
  | _ => exact ⟨rfl, rfl⟩

theorem receiveLog {s : Server} (reachable : s.reachable = true) (c : Command Nat) :
    (s.receive c).2.log = s.log ++ [c] ∧ (s.receive c).2.reachable = true := by
  rcases receiveState s c with ⟨_, gone⟩ | same | same
  · rw [reachable] at gone
    cases gone
  · rw [same]
    exact ⟨rfl, reachable⟩
  · obtain ⟨logged, there⟩ := performLog (s.heard c) c
    rw [same, logged, there]
    exact ⟨rfl, reachable⟩

theorem takesLog {s last : Server} {rounds : List Round} (takes : s.Takes rounds last)
    (reachable : s.reachable = true) : last.log = s.log ++ rounds.map Round.command := by
  induction takes with
  | done s => simp
  | @round s c answer between rounds last received _ ih =>
    have logged := receiveLog reachable c
    rw [received] at logged
    rw [ih logged.2, logged.1, List.append_assoc]
    rfl

end Logs

end Server

end LocatorPath
