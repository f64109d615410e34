import LocatorPath.CommandLine.Run
import LocatorPath.Proofs.Resolve.Outcome
import LocatorPath.Proofs.WebDriver.Wires

/-! The program before a server whose state is known. Commands go over a line that records them, and what the program
writes stands beside it. Each part of a run does in this scene what it does on the line alone, and writes
something. -/
namespace LocatorPath

variable {σ α β : Type}

def resultOf (x : StateM σ β) (s : σ) : β × σ := Id.run (x.run s)

@[simp] theorem resultOfBind {γ : Type} (x : StateM σ β) (next : β → StateM σ γ) (s : σ) :
    resultOf (x >>= next) s = resultOf (next (resultOf x s).1) (resultOf x s).2 := rfl

@[simp] theorem resultOfMap {γ : Type} (f : β → γ) (x : StateM σ β) (s : σ) :
    resultOf (f <$> x) s = (f (resultOf x s).1, (resultOf x s).2) := rfl

/-- A command that was sent, and whether the server has done what it asks. -/
structure Sent (α : Type) where
  command : Command α
  accepted : Bool

structure Line (σ α : Type) where
  server : σ
  sent : List (Sent α)

def Wire.recorded (w : Wire (StateM σ) α) : Wire (StateM (Line σ α)) α := fun c => ExceptT.mk do
  let line ← get
  let (out, later) := endOf (w c) line.server
  set (Line.mk later (line.sent ++ [⟨c, out.isOk⟩]))
  return out

abbrev Scene (σ α : Type) := Line σ α × List Output

def onScene (x : StateM (Line σ α) β) : StateM (Scene σ α) β := do
  let (line, written) ← get
  let (b, later) := resultOf x line
  set (later, written)
  return b

def Wire.onScene (w : Wire (StateM (Line σ α)) α) : Wire (StateM (Scene σ α)) α := fun c =>
  ExceptT.mk (LocatorPath.onScene (w c).run)

def observed (disk : Files Id) (servers : String → Wire (StateM σ) α) : Host (StateM (Scene σ α)) α where
  files := ⟨fun path => pure (disk.read path), fun path => pure (disk.isPresent path), disk.home⟩
  server url := pure (servers url).recorded.onScene
  emit o := modify fun (line, written) => (line, written ++ [o])

def Output.text? : Output → Option String
  | text line => some line
  | _ => none

def printed (written : List Output) : List String := written.filterMap Output.text?

def block (path : String) : Except ResolveError (List String) → List String
  | .ok texts => (path ++ ":") :: texts.map fun text => "  " ++ text
  | .error _ => []

def blocks (paths : List String) (outs : List (Except ResolveError (List String))) : List String :=
  (List.zipWith block paths outs).flatten

def configOf (disk : Files Id) (a : Arguments) : Except ConfigError Config :=
  match a.config with
  | some path => Id.run (Config.loadFrom disk path)
  | none => Id.run (Config.loadDefault disk)

section Sessions

variable {m : Type → Type} [Monad m]

def navigate (w : Wire m α) : Option String → ExceptT Client.VisitError m Unit
  | none => return
  | some url => Client.visit w url

def resolverOf (w : Wire m α) (config : Config) (registry : Registry) : Resolver (Client.Session m) α :=
  ⟨Client.driver w, registry, .ofConfig config⟩

def attempts (w : Wire m α) (config : Config) (registry : Registry) (paths : List String) :
    Client.Session m (List (Except ResolveError (List String))) :=
  paths.mapM fun path => ((resolverOf w config registry).textOf path).run

end Sessions

/-! ## From the line to the scene -/

def Grows (allowed : Command α → Bool) (line later : Line σ α) : Prop :=
  ∃ more, later.sent = line.sent ++ more ∧ ∀ c ∈ more, allowed c.command = true

theorem Grows.refl (allowed : Command α → Bool) (line : Line σ α) : Grows allowed line line := ⟨[], by simp⟩

theorem Grows.trans {allowed : Command α → Bool} {line between later : Line σ α} (first : Grows allowed line between)
    (second : Grows allowed between later) : Grows allowed line later := by
  obtain ⟨front, one, fine⟩ := first
  obtain ⟨back, two, good⟩ := second
  refine ⟨front ++ back, by rw [two, one, List.append_assoc], ?_⟩
  intro c inside
  rcases List.mem_append.mp inside with inside | inside
  · exact fine c inside
  · exact good c inside

/-- Programs that do the same on a line and in a scene, where they write nothing and send allowed commands only. -/
def carried (allowed : Command α → Bool) : Likeness (StateM (Scene σ α)) (StateM (Line σ α)) where
  Same good x y := ∀ line written,
    resultOf x (line, written) = ((resultOf y line).1, (resultOf y line).2, written) ∧
      good (resultOf y line).1 ∧ Grows allowed line (resultOf y line).2
  pure holds line written := ⟨rfl, holds, .refl allowed line⟩
  bind {_ _ _ _ x _ f _} first second line written := by
    obtain ⟨one, holds, grows⟩ := first line written
    obtain ⟨two, fine, more⟩ := second _ holds _ written
    refine ⟨?_, fine, grows.trans more⟩
    change resultOf (f (resultOf x (line, written)).1) (resultOf x (line, written)).2 = _
    rw [one]
    exact two

section Parts

variable (disk : Files Id) (servers : String → Wire (StateM σ) α)

@[simp] theorem printedLog (level : Level) (origin : Origin) (message : String) (rest : List Output) :
    printed (.log level origin message :: rest) = printed rest := rfl

variable (w : Wire (StateM σ) α) (config : Config) (registry : Registry)

@[simp] theorem readCarried (path : String) (scene : Scene σ α) :
    resultOf ((observed disk servers).files.read path) scene = (Id.run (disk.read path), scene) := rfl

@[simp] theorem configCarried (path : String) (scene : Scene σ α) :
    resultOf (Config.loadFrom (observed disk servers).files path) scene =
      (Id.run (Config.loadFrom disk path), scene) := by
  unfold Config.loadFrom
  simp only [resultOfBind, readCarried, Id.run_bind]
  cases Id.run (disk.read path) with
  | error e => rfl
  | ok text =>
    dsimp only
    cases Config.readText text <;> rfl

end Parts

end LocatorPath
