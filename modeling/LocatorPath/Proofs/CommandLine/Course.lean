import LocatorPath.Proofs.CommandLine.Scene
import Mathlib.Data.List.Forall2

/-! The courses that a run of the program can take. It stops before there is a session, or it opens one, works through
its paths and closes the session. -/
namespace LocatorPath

variable {σ α : Type}

structure Loads (disk : Files Id) (a : Arguments) (config : Config) (registry : Registry) : Prop where
  settings : configOf disk a = .ok config
  tree : ∃ path, (a.definitions <|> config.definitions) = some path ∧
    Id.run (Registry.loadFrom disk path) = .ok registry

theorem Loads.known {disk : Files Id} {a : Arguments} {config other : Config} {registry : Registry}
    (loads : Loads disk a config registry) (settings : configOf disk a = .ok other) : other = config := by
  have same := settings.symm.trans loads.settings
  cases same
  rfl

theorem Loads.unique {disk : Files Id} {a : Arguments} {config other : Config} {registry more : Registry}
    (one : Loads disk a config registry) (two : Loads disk a other more) : other = config ∧ more = registry := by
  obtain rfl := one.known two.settings
  obtain ⟨path, named, read⟩ := one.tree
  obtain ⟨_, again, found⟩ := two.tree
  rw [named] at again
  cases again
  rw [read] at found
  cases found
  exact ⟨rfl, rfl⟩

section Courses

variable (disk : Files Id) (servers : String → Wire (StateM σ) α) (a : Arguments)

def serverOf (config : Config) : Wire (StateM σ) α :=
  servers ((a.webdriverUrl <|> config.webdriverUrl).getD defaultServerUrl)

inductive Course (start : Line σ α) : List String → Exit → Line σ α → Prop
  | unloaded (fails : ∀ config registry, ¬ Loads disk a config registry) : Course start [] .failure start
  | refused {config registry e later} (loads : Loads disk a config registry)
      (refuses : endOf (Client.connect (serverOf servers a config).recorded []) start = (.error e, later)) :
      Course start [] .failure later
  | astray {config registry opened e landed out later} (loads : Loads disk a config registry)
      (opens : endOf (Client.connect (serverOf servers a config).recorded []) start = (.ok (), opened))
      (strays : endOf (navigate (serverOf servers a config).recorded a.url) opened = (.error e, landed))
      (closes : endOf (Client.close (serverOf servers a config).recorded) landed = (out, later)) :
      Course start [] .failure later
  | answered {config registry opened landed outs mark last out later} (loads : Loads disk a config registry)
      (opens : endOf (Client.connect (serverOf servers a config).recorded []) start = (.ok (), opened))
      (lands : endOf (navigate (serverOf servers a config).recorded a.url) opened = (.ok (), landed))
      (tries : resultOf ((attempts (serverOf servers a config).recorded config registry a.paths).run 0) landed =
        ((outs, mark), last))
      (closes : endOf (Client.close (serverOf servers a config).recorded) last = (out, later)) :
      Course start (blocks a.paths outs) (if outs.all Except.isOk && out.isOk then .success else .failure) later

end Courses

/-! ## The whole run -/

section Runs

variable (disk : Files Id) (servers : String → Wire (StateM σ) α) (a : Arguments)

end Runs

/-! ## What all courses have in common -/

section Courses

variable {disk : Files Id} {servers : String → Wire (StateM σ) α} {a : Arguments}

inductive Succeeds (disk : Files Id) (servers : String → Wire (StateM σ) α) (a : Arguments) (start : Line σ α) : Prop
  | intro {config registry opened landed outs mark last later} (loads : Loads disk a config registry)
      (opens : endOf (Client.connect (serverOf servers a config).recorded []) start = (.ok (), opened))
      (lands : endOf (navigate (serverOf servers a config).recorded a.url) opened = (.ok (), landed))
      (tries : resultOf ((attempts (serverOf servers a config).recorded config registry a.paths).run 0) landed =
        ((outs, mark), last))
      (resolved : ∀ out ∈ outs, ∃ texts, out = .ok texts)
      (closes : endOf (Client.close (serverOf servers a config).recorded) last = (.ok (), later))

variable {start later : Line σ α} {lines : List String} {exit : Exit}

def Sent.opens (c : Sent α) : Bool :=
  match c.command with
  | .newSession _ => true
  | _ => false

theorem Course.loaded (course : Course disk servers a start lines exit later) (fresh : start.sent = [])
    (opening : ∃ c ∈ later.sent, c.opens = true) : ∃ config registry, Loads disk a config registry := by
  cases course with
  | unloaded =>
    obtain ⟨c, inside, _⟩ := opening
    rw [fresh] at inside
    cases inside
  | refused loads => exact ⟨_, _, loads⟩
  | astray loads => exact ⟨_, _, loads⟩
  | answered loads => exact ⟨_, _, loads⟩

theorem allResolved {outs : List (Except ResolveError (List String))} :
    outs.all Except.isOk = true ↔ ∀ out ∈ outs, ∃ texts, out = .ok texts := by
  rw [List.all_eq_true]
  refine forall₂_congr fun out _ => ?_
  cases out <;> simp [Except.isOk, Except.toBool]

theorem Course.success (course : Course disk servers a start lines exit later) :
    exit.code = 0 ↔ Succeeds disk servers a start := by
  constructor
  · intro zero
    cases course with
    | unloaded | refused | astray => cases zero
    | @answered _ _ _ _ outs _ _ out _ loads opens lands tries closes =>
      cases all : outs.all Except.isOk with
      | false =>
        rw [all] at zero
        cases zero
      | true =>
        cases out with
        | error e =>
          rw [all] at zero
          cases zero
        | ok _ => exact .intro loads opens lands tries (allResolved.mp all) closes
  · intro succeeds
    obtain ⟨loads, opens, lands, tries, resolved, closes⟩ := succeeds
    cases course with
    | unloaded fails => exact absurd loads (fails _ _)
    | refused known refuses =>
      obtain ⟨rfl, rfl⟩ := loads.unique known
      rw [opens] at refuses
      cases refuses
    | astray known opened strays =>
      obtain ⟨rfl, rfl⟩ := loads.unique known
      rw [opens] at opened
      cases opened
      rw [lands] at strays
      cases strays
    | answered known opened landed tried closed =>
      obtain ⟨rfl, rfl⟩ := loads.unique known
      rw [opens] at opened
      cases opened
      rw [lands] at landed
      cases landed
      rw [tries] at tried
      cases tried
      rw [closes] at closed
      cases closed
      rw [allResolved.mpr resolved]
      rfl

end Courses

end LocatorPath
