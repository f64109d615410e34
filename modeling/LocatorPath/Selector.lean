/-! Selectors as definitions name them, and locators as drivers take them. -/
namespace LocatorPath

inductive Strategy where
  | css
  | xpath
  | js
  | android
  | ios
  | accessibilityId
  deriving DecidableEq, Repr

namespace Strategy

def name : Strategy → String
  | css => "css"
  | xpath => "xpath"
  | js => "js"
  | android => "android"
  | ios => "ios"
  | accessibilityId => "accessibilityId"

def ofName? : String → Option Strategy
  | "css" => some css
  | "xpath" => some xpath
  | "js" => some js
  | "android" => some android
  | "ios" => some ios
  | "accessibilityId" => some accessibilityId
  | _ => none

theorem nameKnown (s : Strategy) : ofName? s.name = some s := by cases s <;> rfl

end Strategy

structure Selector where
  strategy : Strategy
  value : String
  deriving DecidableEq, Repr

def Selector.css (value : String) : Selector := ⟨.css, value⟩

inductive Using where
  | css
  | xpath
  | androidAutomator
  | iosAutomation
  | accessibilityId
  deriving DecidableEq, Repr

def Using.name : Using → String
  | css => "css selector"
  | xpath => "xpath"
  | androidAutomator => "-android uiautomator"
  | iosAutomation => "-ios uiautomation"
  | accessibilityId => "accessibility id"

inductive Locator where
  | find (using_ : Using) (value : String)
  | script (source : String)
  deriving DecidableEq, Repr

def Selector.locator (s : Selector) : Locator :=
  match s.strategy with
  | .css => .find .css s.value
  | .xpath => .find .xpath s.value
  | .js => .script s.value
  | .android => .find .androidAutomator s.value
  | .ios => .find .iosAutomation s.value
  | .accessibilityId => .find .accessibilityId s.value

namespace Locator

def value : Locator → String
  | find _ value => value
  | script source => source

def render : Locator → String
  | find u value => u.name ++ "=" ++ value
  | script _ => "script"

end Locator

end LocatorPath
