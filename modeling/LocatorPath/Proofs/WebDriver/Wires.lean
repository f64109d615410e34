import LocatorPath.Proofs.Resolve.Likeness
import LocatorPath.Proofs.WebDriver.Dialogue

/-! A client over two wires. Where the wires answer the commands inside a session alike, so do the drivers over them,
and with the drivers all resolutions of the session. -/
namespace LocatorPath

variable {α β ε : Type} {m n : Type → Type} [Monad m] [Monad n]

def Command.isInside : Command α → Bool
  | .newSession _ | .deleteSession => false
  | _ => true

namespace Likeness

def session (like : Likeness m n) : Likeness (Client.Session m) (Client.Session n) where
  Same {δ} good x y := ∀ mark, like.Same (fun p : δ × Tag.Mark => good p.1) (x.run mark) (y.run mark)
  pure holds _ := like.pure holds
  bind first second mark := like.bind (first mark) fun (b, later) holds => second b holds later

variable [LawfulMonad m] [LawfulMonad n]

theorem weaken (like : Likeness m n) {good fine : β → Prop} {x : m β} {y : n β} (same : like.Same good x y)
    (better : ∀ b, good b → fine b) : like.Same fine x y := by
  have mapped := like.map id same better
  rwa [id_map, id_map] at mapped

theorem Alike.always {like : Likeness m n} {good : β → Prop} {x : ExceptT ε m β} {y : ExceptT ε n β}
    (alike : like.Alike (fun _ => True) x y) (all : ∀ b, good b) : like.Alike good x y :=
  like.weaken alike fun _ _ b _ => all b

end Likeness

def Wire.Alike (like : Likeness m n) (w : Wire m α) (v : Wire n α) : Prop :=
  ∀ c, c.isInside = true → like.Alike (fun _ => True) (w c) (v c)

namespace Client

theorem plainAlike {like : Likeness m n} {good : β → Prop} {x : ExceptT DriverError m β} {y : ExceptT DriverError n β}
    (alike : like.Alike good x y) : like.session.Alike good (plain x) (plain y) := by
  intro mark
  exact like.bind alike fun out ends => like.pure ends

variable [LawfulMonad m] [LawfulMonad n] {like : Likeness m n} {w : Wire m α} {v : Wire n α}
  (wires : Wire.Alike like w v)

include wires

theorem askForAlike (pick : Reply α → Option β) {c : Command α} (inside : c.isInside = true) :
    like.Alike (fun _ => True) (w.askFor pick c) (v.askFor pick c) := by
  refine (wires c inside).bind fun reply _ => ?_
  unfold Reply.taken
  split
  · exact .pure trivial
  · exact .throw _

theorem findRootAlike (l : Locator) : like.Alike (fun _ => True) (findRoot w l) (findRoot v l) := by
  unfold findRoot
  cases supported l with
  | error e => exact .throw e
  | ok selector =>
    simp only [Wire.askElementFor]
    exact (askForAlike wires _ rfl).adapt _

theorem findFirstAlike (a : α) (l : Locator) : like.Alike (fun _ => True) (findFirst w a l) (findFirst v a l) := by
  unfold findFirst
  cases supported l with
  | error e => exact .throw e
  | ok selector =>
    simp only [Wire.askElementFor]
    exact (askForAlike wires _ rfl).adapt _

theorem findAllAlike (a : α) (l : Locator) : like.Alike (fun _ => True) (findAll w a l) (findAll v a l) := by
  unfold findAll
  cases supported l with
  | error e => exact .throw e
  | ok selector =>
    simp only [Wire.askElementsFor]
    exact (askForAlike wires _ rfl).adapt _

theorem findEachAlike (extent : Extent) (l : Locator) (as : List α) :
    like.Same (fun _ => True) (findEach w extent l as) (findEach v extent l as) := by
  induction as with
  | nil => exact like.pure trivial
  | cons a rest ih =>
    have one : like.Alike (fun _ => True) (find w extent l a) (find v extent l a) := by
      cases extent with
      | first => exact (findFirstAlike wires a l).bind fun b _ => .pure trivial
      | all => exact findAllAlike wires a l
    exact like.bind one fun found _ => like.bind ih fun others _ => like.pure trivial

theorem findTogetherAlike (extent : Extent) (as : List α) (l : Locator) :
    like.Alike (fun _ => True) (findTogether w extent as l) (findTogether v extent as l) := by
  unfold findTogether
  split
  · exact .throw _
  · exact like.weaken (findEachAlike wires extent l _) fun _ _ _ _ => trivial

theorem readPlacesAlike (mark : Tag.Mark) (as : List α) :
    like.Alike (fun _ => True) (readPlaces w mark as) (readPlaces v mark as) := by
  induction as with
  | nil => exact .pure trivial
  | cons a rest ih =>
    simp only [readPlaces, Wire.askTagFor]
    have one := (askForAlike wires Reply.tag? (c := .readTag a) rfl).adapt elementError
    exact one.bind fun value _ => ih.bind fun places _ => .pure trivial

theorem findTaggedAlike (mark : Tag.Mark) : like.Alike (fun _ => True) (findTagged w mark) (findTagged v mark) := by
  simp only [findTagged, Wire.askElementsFor]
  refine ((askForAlike wires _ rfl).adapt _).bind fun found _ => ?_
  exact (readPlacesAlike wires mark found).bind fun places _ => .pure trivial

theorem runMarkedAlike (source : String) (mark : Tag.Mark) :
    like.Alike (fun _ => True) (runMarked w source mark) (runMarked v source mark) := by
  simp only [runMarked, Wire.askSummaryFor]
  refine like.bind (askForAlike wires Reply.summary? rfl) fun tagged _ => ?_
  cases tagged with
  | error e => exact Likeness.Alike.throw (scriptError e)
  | ok summary =>
    refine like.bind (findTaggedAlike wires mark) fun found _ => ?_
    refine like.bind (wires (.untag mark) rfl) fun untagged _ => ?_
    exact Likeness.Alike.ended _ fun _ _ => trivial

theorem textAlike (a : α) : like.Alike (fun _ => True) (text w a) (text v a) := by
  simp only [text, Wire.askTextFor]
  exact (askForAlike wires _ rfl).adapt _

/- A call draws the same mark over both wires and leaves the next one behind. -/
theorem runScriptAlike (source : String) :
    like.session.Alike (fun _ => True) (runScript w source) (runScript v source) := by
  intro mark
  rw [runScriptDraws, runScriptDraws]
  refine like.bind (runMarkedAlike wires source mark) fun out _ => ?_
  exact like.pure fun _ _ => trivial

theorem driversAlike : (driver w).Alike like.session (fun _ => True) (fun _ => True) (driver v) where
  root _ _ _ := plainAlike (findRootAlike wires _)
  first a _ _ _ _ := plainAlike (findFirstAlike wires a _)
  all a _ _ _ _ := (plainAlike (findAllAlike wires a _)).always fun _ _ _ => trivial
  together extent as _ _ _ _ := (plainAlike (findTogetherAlike wires extent as _)).always fun _ _ _ => trivial
  text a _ := plainAlike (textAlike wires a)
  script source _ := (runScriptAlike wires source).always fun _ _ _ => trivial

end Client

end LocatorPath
