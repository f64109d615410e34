import LocatorPath.WebDriver.Client
import LocatorPath.WebDriver.Server

/-! The client as the commands it sends and what it does with each answer. Run in this monad it stops at
every command, so that what others send can come between two commands of a call. What a call relies on from
the others, and what it grants them, is said of each command. -/
namespace LocatorPath

variable {α β γ : Type} {m : Type → Type}

def Reply.element? : Reply α → Option α
  | .element a => some a
  | _ => none

def Reply.text? : Reply α → Option String
  | .text value => some value
  | _ => none

def Reply.elements? : Reply α → Option (List α)
  | .elements as => some as
  | _ => none

def Reply.tag? : Reply α → Option (Option String)
  | .tag value => some value
  | _ => none

def Reply.summary? : Reply α → Option JsonValue
  | .summary value => some value
  | _ => none

def Reply.taken [Monad m] (pick : Reply α → Option β) (reply : Reply α) : ExceptT CommandError m β :=
  match pick reply with
  | some b => return b
  | none => throw .unexpected

namespace Wire

variable [Monad m] (w : Wire m α)

def askFor (pick : Reply α → Option β) (c : Command α) : ExceptT CommandError m β :=
  w c >>= Reply.taken pick

theorem askAny [LawfulMonad m] (c : Command α) : w c = w.askFor some c := (bind_pure (w c)).symm

theorem askElementFor (c : Command α) : w.askElement c = w.askFor Reply.element? c :=
  bind_congr fun reply => by cases reply <;> rfl

theorem askTextFor (c : Command α) : w.askText c = w.askFor Reply.text? c :=
  bind_congr fun reply => by cases reply <;> rfl

theorem askElementsFor (c : Command α) : w.askElements c = w.askFor Reply.elements? c :=
  bind_congr fun reply => by cases reply <;> rfl

theorem askTagFor (c : Command α) : w.askTag c = w.askFor Reply.tag? c :=
  bind_congr fun reply => by cases reply <;> rfl

theorem askSummaryFor (c : Command α) : w.askSummary c = w.askFor Reply.summary? c :=
  bind_congr fun reply => by cases reply <;> rfl

end Wire

inductive Dialogue (α β : Type) where
  | done (b : β)
  | ask (c : Command α) (next : Except CommandError (Reply α) → Dialogue α β)

namespace Dialogue

def bind : Dialogue α β → (β → Dialogue α γ) → Dialogue α γ
  | done b, next => next b
  | ask c following, next => ask c fun answer => (following answer).bind next

instance : Monad (Dialogue α) where
  pure := done
  bind := bind

theorem bindDone (d : Dialogue α β) : d.bind done = d := by
  induction d with
  | done b => rfl
  | ask c next same => simp only [bind, same]

theorem bindAssoc (d : Dialogue α β) (f : β → Dialogue α γ) {δ : Type} (g : γ → Dialogue α δ) :
    (d.bind f).bind g = d.bind fun b => (f b).bind g := by
  induction d with
  | done b => rfl
  | ask c next same => simp only [bind, same]

instance : LawfulMonad (Dialogue α) :=
  LawfulMonad.mk' (Dialogue α) bindDone (fun _ _ => rfl) fun d f g => bindAssoc d f g

def wire : Wire (Dialogue α) α := fun c => ExceptT.mk (ask c done)

def sent [Monad m] (w : Wire m α) : Dialogue α β → m β
  | done b => pure b
  | ask c next => (w c).run >>= fun answer => (next answer).sent w

def finish : Dialogue Nat β → Server → β × Server
  | done b, s => (b, s)
  | ask c next, s =>
    let (answer, s) := s.receive c
    (next answer).finish s

theorem sentBind [Monad m] [LawfulMonad m] (w : Wire m α) (d : Dialogue α β)
    (next : β → Dialogue α γ) : (d >>= next).sent w = d.sent w >>= fun b => (next b).sent w := by
  change (d.bind next).sent w = _
  induction d with
  | done b => simp [bind, sent]
  | ask c following later => simp [bind, sent, later]

theorem sentMap [Monad m] [LawfulMonad m] (w : Wire m α) (f : β → γ) (d : Dialogue α β) :
    (f <$> d).sent w = f <$> d.sent w :=
  (sentBind w d fun b => pure (f b)).trans (map_eq_pure_bind f _).symm

theorem finishSent (d : Dialogue Nat β) (s : Server) : d.finish s = (d.sent Server.wire).run s := by
  induction d generalizing s with
  | done b => rfl
  | ask c next later => exact later _ _

def Agrees [Monad m] (w : Wire m α) {ε : Type} (x : ExceptT ε (Dialogue α) β)
    (y : ExceptT ε m β) : Prop :=
  sent w x.run = y.run

namespace Agrees

variable [Monad m] [LawfulMonad m] {w : Wire m α} {ε ε' : Type}

omit [LawfulMonad m] in
theorem pure (b : β) : Agrees w (Pure.pure b : ExceptT ε (Dialogue α) β) (Pure.pure b) := rfl

omit [LawfulMonad m] in
theorem throw (e : ε) :
    Agrees w (MonadExcept.throw e : ExceptT ε (Dialogue α) β) (MonadExcept.throw e) := rfl

theorem wire (c : Command α) : Agrees w (Dialogue.wire c) (w c) := by
  simp [Agrees, Dialogue.wire, sent]

theorem bind {x : ExceptT ε (Dialogue α) β} {y : ExceptT ε m β}
    {f : β → ExceptT ε (Dialogue α) γ} {g : β → ExceptT ε m γ}
    (first : Agrees w x y) (second : ∀ b, Agrees w (f b) (g b)) : Agrees w (x >>= f) (y >>= g) := by
  unfold Agrees at *
  rw [ExceptT.run_bind, ExceptT.run_bind, sentBind, first]
  refine bind_congr fun out => ?_
  cases out with
  | ok b => exact second b
  | error e => rfl

theorem adapt {x : ExceptT ε (Dialogue α) β} {y : ExceptT ε m β} (f : ε → ε')
    (same : Agrees w x y) : Agrees w (ExceptT.adapt f x) (ExceptT.adapt f y) := by
  unfold Agrees at *
  change sent w (Except.mapError f <$> x.run) = Except.mapError f <$> y.run
  rw [sentMap, same]

end Agrees

end Dialogue

namespace Client

open Dialogue (Agrees sent)

variable [Monad m] [LawfulMonad m] (w : Wire m α)

theorem askForAgrees (pick : Reply α → Option β) (c : Command α) :
    Agrees w (Dialogue.wire.askFor pick c) (w.askFor pick c) := by
  refine .bind (.wire c) fun reply => ?_
  unfold Reply.taken
  cases pick reply with
  | some b => exact .pure b
  | none => exact .throw _

theorem readPlacesAgrees (mark : Tag.Mark) (as : List α) :
    Agrees w (readPlaces Dialogue.wire mark as) (readPlaces w mark as) := by
  induction as with
  | nil => exact .pure []
  | cons a rest others =>
    simp only [readPlaces, Wire.askTagFor]
    refine .bind (.adapt elementError (askForAgrees w Reply.tag? (.readTag a))) fun value => ?_
    exact .bind others fun places => .pure _

theorem findTaggedAgrees (mark : Tag.Mark) :
    Agrees w (findTagged Dialogue.wire mark) (findTagged w mark) := by
  simp only [findTagged, Wire.askElementsFor]
  refine .bind (.adapt _ (askForAgrees w Reply.elements? (.findTagged mark))) fun found => ?_
  exact .bind (readPlacesAgrees w mark found) fun places => .pure _

theorem runMarkedAgrees (source : String) (mark : Tag.Mark) :
    Agrees w (runMarked Dialogue.wire source mark) (runMarked w source mark) := by
  have summaries := askForAgrees w Reply.summary? (.tag source mark)
  have finds := findTaggedAgrees w mark
  have ends := Agrees.wire (w := w) (.untag mark)
  unfold Agrees at *
  unfold runMarked
  simp only [Wire.askSummaryFor]
  rw [ExceptT.run_mk, ExceptT.run_mk, Dialogue.sentBind, summaries]
  refine bind_congr fun summary => ?_
  cases summary with
  | error e => rfl
  | ok summary =>
    simp only
    rw [Dialogue.sentBind, finds]
    refine bind_congr fun found => ?_
    rw [Dialogue.sentBind, ends]
    rfl

theorem runScriptDraws (source : String) (mark : Tag.Mark) :
    (runScript w source).run.run mark =
      (runMarked w source mark).run >>= fun out => pure (out, mark + 1) := by
  simp [runScript, StateT.run_lift]

theorem runScriptAgrees (source : String) (mark : Tag.Mark) :
    sent w ((runScript Dialogue.wire source).run.run mark) = (runScript w source).run.run mark := by
  rw [runScriptDraws, runScriptDraws, Dialogue.sentBind, runMarkedAgrees]
  rfl

theorem runScriptFinish (source : String) (mark : Tag.Mark) (s : Server) :
    ((runScript Server.wire source).run.run mark).run s =
      ((runScript Dialogue.wire source).run.run mark).finish s := by
  rw [Dialogue.finishSent, runScriptAgrees]

end Client

namespace Dialogue

/-- A dialogue that begins at a state, where others may come before each of its commands. As long as each
of them changes the state only as relied on, every command changes it as granted, and what holds at
the end goes on to hold. -/
def Keeps (rely grant : Server → Server → Prop) (after : β → Server → Prop) :
    Dialogue Nat β → Server → Prop
  | done b, s => ∀ later, rely s later → after b later
  | ask c next, s => ∀ later, rely s later →
    grant later (later.receive c).2 ∧
      (next (later.receive c).1).Keeps rely grant after (later.receive c).2

namespace Keeps

variable {rely grant : Server → Server → Prop} {after : β → Server → Prop} {s later : Server}

theorem pass (trans : ∀ a b c, rely a b → rely b c → rely a c) {d : Dialogue Nat β}
    (keeps : d.Keeps rely grant after s) (passed : rely s later) : d.Keeps rely grant after later := by
  cases d with
  | done b => exact fun last more => keeps last (trans _ _ _ passed more)
  | ask c next => exact fun last more => keeps last (trans _ _ _ passed more)

theorem weaken {less : Server → Server → Prop} {fine : β → Server → Prop} {d : Dialogue Nat β}
    (keeps : d.Keeps rely grant after s) (fewer : ∀ a b, less a b → rely a b)
    (better : ∀ b s, after b s → fine b s) : d.Keeps less grant fine s := by
  induction d generalizing s with
  | done b => exact fun last more => better b last (keeps last (fewer _ _ more))
  | ask c next later =>
    intro last more
    obtain ⟨changed, rest⟩ := keeps last (fewer _ _ more)
    exact ⟨changed, later _ rest⟩

theorem bind {fine : γ → Server → Prop} {d : Dialogue Nat β} {next : β → Dialogue Nat γ}
    (refl : ∀ s, rely s s) (first : d.Keeps rely grant after s)
    (second : ∀ b s, after b s → (next b).Keeps rely grant fine s) :
    (d >>= next).Keeps rely grant fine s := by
  change (d.bind next).Keeps rely grant fine s
  induction d generalizing s with
  | done b => exact second b s (first s (refl s))
  | ask c following later =>
    exact fun last more => ⟨(first last more).1, later _ (first last more).2⟩

theorem map (f : β → γ) {fine : γ → Server → Prop} {d : Dialogue Nat β}
    (keeps : d.Keeps rely grant (fun b => fine (f b)) s) : (f <$> d).Keeps rely grant fine s := by
  change (d.bind fun b => done (f b)).Keeps rely grant fine s
  induction d generalizing s with
  | done b => exact keeps
  | ask c next later => exact fun last more => ⟨(keeps last more).1, later _ (keeps last more).2⟩

theorem also (always : Server → Prop) (relied : ∀ {a b}, rely a b → always a → always b)
    (granted : ∀ {a b}, grant a b → always a → always b) {d : Dialogue Nat β}
    (keeps : d.Keeps rely grant after s) (first : always s) :
    d.Keeps rely grant (fun b s => after b s ∧ always s) s := by
  induction d generalizing s with
  | done b => exact fun last more => ⟨keeps last more, relied more first⟩
  | ask c next later =>
    intro last more
    obtain ⟨changed, rest⟩ := keeps last more
    exact ⟨changed, later _ rest (granted changed (relied more first))⟩

theorem finish {d : Dialogue Nat β} (refl : ∀ s, rely s s) (still : ∀ s, grant s s)
    (trans : ∀ a b c, grant a b → grant b c → grant a c) (keeps : d.Keeps rely grant after s) :
    after (d.finish s).1 (d.finish s).2 ∧ grant s (d.finish s).2 := by
  induction d generalizing s with
  | done b => exact ⟨keeps s (refl s), still s⟩
  | ask c next later =>
    obtain ⟨granted, rest⟩ := keeps s (refl s)
    obtain ⟨holds, more⟩ := later _ rest
    exact ⟨holds, trans _ _ _ granted more⟩

end Keeps

def Ended {ε : Type} (good : β → Server → Prop) (bad : Prop) : Except ε β → Server → Prop
  | .ok b, s => good b s
  | .error _, _ => bad

def Gives {ε : Type} (rely grant : Server → Server → Prop) (good : β → Server → Prop)
    (bad : Prop) (x : ExceptT ε (Dialogue Nat) β) (s : Server) : Prop :=
  Keeps rely grant (Ended good bad) x.run s

namespace Gives

variable {ε ε' : Type} {rely grant : Server → Server → Prop} {good : β → Server → Prop}
  {bad : Prop} {s : Server}

theorem pure {b : β} (holds : ∀ later, rely s later → good b later) :
    Gives rely grant good bad (Pure.pure b : ExceptT ε (Dialogue Nat) β) s := holds

theorem bind {fine : γ → Server → Prop} {x : ExceptT ε (Dialogue Nat) β}
    {next : β → ExceptT ε (Dialogue Nat) γ} (refl : ∀ s, rely s s)
    (first : Gives rely grant good bad x s)
    (second : ∀ b s, good b s → Gives rely grant fine bad (next b) s) :
    Gives rely grant fine bad (x >>= next) s := by
  unfold Gives
  rw [ExceptT.run_bind]
  refine Keeps.bind refl first fun out s ended => ?_
  cases out with
  | ok b => exact second b s ended
  | error e => exact fun _ _ => ended

theorem adapt {x : ExceptT ε (Dialogue Nat) β} (f : ε → ε')
    (gives : Gives rely grant good bad x s) : Gives rely grant good bad (ExceptT.adapt f x) s := by
  refine Keeps.map (Except.mapError f) (gives.weaken (fun _ _ same => same) fun out s ended => ?_)
  cases out <;> exact ended

theorem askFor {pick : Reply Nat → Option β} {c : Command Nat} (refl : ∀ s, rely s s)
    (answer : ∀ later, rely s later → grant later (later.receive c).2 ∧
      ∀ last, rely (later.receive c).2 last →
        Ended (fun reply last => ∃ b, pick reply = some b ∧ good b last) bad (later.receive c).1 last) :
    Gives rely grant good bad (Dialogue.wire.askFor pick c) s := by
  intro later passed
  obtain ⟨granted, ended⟩ := answer later passed
  refine ⟨granted, ?_⟩
  generalize (later.receive c).1 = out at ended ⊢
  cases out with
  | error e => exact ended
  | ok reply =>
    obtain ⟨b, picked, _⟩ := ended _ (refl _)
    have known : (reply.taken pick : ExceptT CommandError (Dialogue Nat) β) = Pure.pure b := by
      simp only [Reply.taken, picked]
    change Keeps rely grant (Ended good bad) (reply.taken pick).run _
    rw [known]
    intro last more
    obtain ⟨other, same, holds⟩ := ended last more
    rw [picked] at same
    cases same
    exact holds

end Gives

end Dialogue

end LocatorPath
