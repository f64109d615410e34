import LocatorPath.Resolve.Path

/-! Laws that programs hand on to whatever is put together from them. If all that a driver does obeys such a law, so do
the resolutions over it. -/
namespace LocatorPath

/-- A law may tell the errors that come from a driver from others, so it is told how they are wrapped. -/
structure Law (m : Type → Type) [Monad m] where
  Holds : {ε β : Type} → (DriverError → ε) → ExceptT ε m β → Prop
  pure : ∀ {ε β : Type} {wrap : DriverError → ε} (b : β), Holds wrap (Pure.pure b)
  throw : ∀ {ε β : Type} {wrap : DriverError → ε} (e : ε), Holds wrap (throw e : ExceptT ε m β)
  bind : ∀ {ε β γ : Type} {wrap : DriverError → ε} {x : ExceptT ε m β} {next : β → ExceptT ε m γ},
    Holds wrap x → (∀ b, Holds wrap (next b)) → Holds wrap (x >>= next)
  driver : ∀ {β : Type} {x : ExceptT DriverError m β}, Holds id x → Holds .driver (fromDriver x)

variable {α : Type} {m : Type → Type} [Monad m]

theorem Law.ended {ε β : Type} {wrap : DriverError → ε} (law : Law m) (out : Except ε β) :
    law.Holds wrap (ExceptT.mk (Pure.pure out)) := by
  cases out with
  | ok b => exact law.pure b
  | error e => exact law.throw e

structure Driver.Obeys (d : Driver m α) (law : Law m) : Prop where
  root : ∀ l, law.Holds id (d.findRoot l)
  first : ∀ a l, law.Holds id (d.findFirst a l)
  all : ∀ a l, law.Holds id (d.findAll a l)
  text : ∀ a, law.Holds id (d.text a)
  script : ∀ source, law.Holds id (d.runScript source)

namespace Driver.Obeys

variable {d : Driver m α} {law : Law m} (obeys : d.Obeys law)

include obeys

theorem find (extent : Extent) (a : α) (l : Locator) : law.Holds id (d.find extent a l) := by
  cases extent with
  | first => exact law.bind (obeys.first a l) fun _ => law.pure _
  | all => exact obeys.all a l

theorem findInTurn (extent : Extent) (l : Locator) (as : List α) : law.Holds id (d.findInTurn extent l as) := by
  induction as with
  | nil => exact law.pure _
  | cons a rest ih => exact law.bind (obeys.find extent a l) fun _ => law.bind ih fun _ => law.pure _

theorem firstWithText (f : TextFilter) (as : List α) : law.Holds .driver (firstWithText d f as) := by
  induction as with
  | nil => exact law.throw _
  | cons a rest ih =>
    refine law.bind (law.driver (obeys.text a)) fun text => ?_
    split
    · exact law.pure _
    · exact ih

theorem allWithText (f : TextFilter) (as : List α) : law.Holds .driver (allWithText d f as) := by
  induction as with
  | nil => exact law.pure _
  | cons a rest ih =>
    exact law.bind (law.driver (obeys.text a)) fun text => law.bind ih fun others => law.pure _

theorem applyModifier (as : List α) (modifier : Modifier) : law.Holds .driver (applyModifier d as modifier) := by
  cases modifier with
  | index spec => exact law.ended (selectIndex as spec)
  | text f c =>
    cases c with
    | first => exact obeys.firstWithText f as
    | all => exact law.bind (obeys.allWithText f as) fun _ => law.pure _

end Driver.Obeys

structure Resolver.Obeys (r : Resolver m α) (law : Law m) : Prop where
  driver : r.driver.Obeys law
  together : r.options.fanOut = .concurrent → ∀ extent as l, law.Holds id (r.driver.findTogether extent as l)

namespace Resolver.Obeys

variable {r : Resolver m α} {law : Law m} (obeys : r.Obeys law)

include obeys

theorem materialize (d : Definition) (scope : Scope α) : law.Holds id (r.materialize d scope) := by
  unfold Resolver.materialize
  split
  · exact law.bind (obeys.driver.script _) fun _ => law.pure _
  · split
    · exact law.bind (obeys.driver.all _ _) fun _ => law.pure _
    · exact law.bind (obeys.driver.first _ _) fun _ => law.pure _
  · dsimp only
    split
    · exact law.bind (obeys.together ‹_› _ _ _) fun _ => law.pure _
    · exact law.bind (obeys.driver.findInTurn _ _ _) fun _ => law.pure _

theorem step (current : Option Definition) (scope : Scope α) (s : Step) :
    law.Holds .driver (r.step current scope s) := by
  unfold Resolver.step
  split
  · split
    · exact law.pure _
    · exact law.bind (obeys.driver.applyModifier _ _) fun _ => law.pure _
    · exact law.throw _
  · split
    · exact law.throw _
    · split
      · exact law.throw _
      · refine law.bind (law.driver (obeys.materialize _ scope)) fun found => ?_
        split
        · exact law.pure _
        · exact law.bind (obeys.driver.applyModifier _ _) fun _ => law.pure _

theorem walk (steps : List Step) (current : Option Definition) (scope : Scope α) :
    law.Holds .driver (r.walk current scope steps) := by
  induction steps generalizing current scope with
  | nil => exact law.pure _
  | cons s rest ih => exact law.bind (obeys.step current scope s) fun p => ih p.1 p.2

theorem resolve (path : String) : law.Holds .driver (r.resolve path) := by
  unfold Resolver.resolve
  split
  · exact law.throw _
  · exact law.bind (law.driver (obeys.driver.root _)) fun a => obeys.walk _ none (.one a)

theorem readTexts (as : List α) : law.Holds .driver (r.readTexts as) := by
  induction as with
  | nil => exact law.pure _
  | cons a rest ih => exact law.bind (law.driver (obeys.driver.text a)) fun text => law.bind ih fun _ => law.pure _

theorem textOf (path : String) : law.Holds .driver (r.textOf path) :=
  law.bind (obeys.resolve path) fun found => obeys.readTexts found.toList

end Resolver.Obeys

end LocatorPath
