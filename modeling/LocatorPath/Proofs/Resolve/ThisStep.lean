import LocatorPath.Proofs.Resolve.Distribution
import LocatorPath.Proofs.Resolve.Narrowing

/-! Steps on `this`. Without a modifier they change nothing. With one they do what the modifier does on an alias, since
a collection always leads to a list, and `this` hands on the list and the definition. -/
namespace LocatorPath

variable {σ α : Type}

section Passing

variable (r : Resolver (StateM σ) α)

theorem thisIdle (current : Option Definition) (scope : Scope α) (n : Nat) (ys : List Step) :
    r.walk current scope (List.replicate n .this ++ ys) = r.walk current scope ys := by
  induction n with
  | zero => rfl
  | succ n ih =>
    have still : r.step current scope .this = pure (current, scope) := rfl
    rw [List.replicate_succ, List.cons_append, walkStep, still, pure_bind]
    exact ih

end Passing

section Collections

variable (r : Resolver (StateM σ) α) {current : Option Definition} {name : String} {d : Definition}
  (found : r.registry.definitionOf current name = .ok d) (several : d.isCollection = true)

include several in
theorem collectionMany (scope : Scope α) : Ends (r.materialize d scope) (·.isMany = true) fun _ => True := by
  refine (materializeEnds r (fun _ => several) scope).weaken (fun all amount => ?_) fun _ bad => bad
  rw [manyAmount, amount, Definition.amount, if_pos several]

include found

theorem plainStep (scope : Scope α) : r.step current scope (.named name) =
    fromDriver (r.materialize d scope) >>= fun all => pure (some d, all) :=
  foundStep r found (by simp) scope

include several

theorem narrowedThis (scope : Scope α) (modifier : Modifier) : r.pass current scope [⟨.named name, some modifier⟩] =
    r.pass current scope [.named name, ⟨.this, some modifier⟩] := by
  rw [passStep, passStep, foundStep r found fun _ => several, plainStep r found, bind_assoc, bind_assoc]
  refine (collectionMany r several scope).driver.bindCongr fun all many => ?_
  cases all with
  | one a => cases many
  | many as =>
    -- only a list lets `this` have a modifier
    rw [pure_bind, passStep, thisStep]

end Collections

section Modifiers

variable (r : Resolver (StateM σ) α) {xs : List Step} {name : String} {d : Definition}
  (known : r.registry.definitionOf (r.registry.met none xs).getLast? name = .ok d)

include known

theorem passNarrowed (several : d.isCollection = true) (scope : Scope α) (modifier : Modifier) :
    r.pass none scope (xs ++ [⟨.named name, some modifier⟩]) =
      r.pass none scope (xs ++ [.named name, ⟨.this, some modifier⟩]) := by
  rw [passAppend, passAppend]
  refine (passEnds r none scope xs).bindCongr fun p last => ?_
  rw [Option.or_none] at last
  exact narrowedThis r (last ▸ known) several p.2 modifier

theorem passDefines (scope : Scope α) (modifier : Option Modifier) :
    Ends (r.pass none scope (xs ++ [⟨.named name, modifier⟩])) (fun p => p.1 = some d) fun _ => True := by
  rw [passAppend]
  refine (passEnds r none scope xs).bind fun p last => ?_
  rw [Option.or_none] at last
  rw [passStep]
  refine (stepGoes r p.1 p.2 _).bind fun q goes => .pure ?_
  rw [last] at goes
  generalize q.1 = next at goes
  cases goes.1 with
  | finds here =>
    cases known.symm.trans here
    rfl

end Modifiers

section Runs

variable (o : Outcomes α) (registry : Registry) (root : Selector) (fanOut : FanOut)

theorem reachedEnds {current last : Option Definition} {scope found : Scope α} {steps : List Step}
    {calls : List (Call α)} {good : Option Definition × Scope α → Prop}
    (ends : Ends ((o.resolver registry root fanOut).pass current scope steps) good fun _ => True)
    (reached : Reaches (o.resolver registry root fanOut) current scope steps last found calls) : good (last, found) :=
  ends.ok ((passReaches (stepDefinite o registry root fanOut)).mpr reached [])

/- A `this` without a modifier may stand anywhere. Behind a collection, `this` with a modifier does what the modifier
does on the alias, and the definition that was resolved last stays the same. -/
theorem thisHandsOn (scope : Scope α) (xs ys : List Step) :
    (∀ n, o.resolved registry root fanOut (xs ++ List.replicate n .this ++ ys) scope =
      o.resolved registry root fanOut (xs ++ ys) scope) ∧
    (∀ current held calls, Reaches (o.resolver registry root fanOut) none scope xs current held calls →
      current = (registry.met none xs).getLast?) ∧
    ∀ name d modifier, registry.definitionOf (registry.met none xs).getLast? name = .ok d → d.isCollection = true →
      o.resolved registry root fanOut (xs ++ [⟨.named name, some modifier⟩] ++ ys) scope =
        o.resolved registry root fanOut (xs ++ [.named name, ⟨.this, some modifier⟩] ++ ys) scope ∧
      ∀ last found calls,
        (Reaches (o.resolver registry root fanOut) none scope (xs ++ [⟨.named name, some modifier⟩]) last found calls ↔
          Reaches (o.resolver registry root fanOut) none scope (xs ++ [.named name, ⟨.this, some modifier⟩]) last found
            calls) ∧
        (Reaches (o.resolver registry root fanOut) none scope (xs ++ [⟨.named name, some modifier⟩]) last found calls →
          last = some d) := by
  have same {steps others : List Step}
      (equal : (o.resolver registry root fanOut).walk none scope steps =
        (o.resolver registry root fanOut).walk none scope others) :
      o.resolved registry root fanOut steps scope = o.resolved registry root fanOut others scope :=
    congrArg (runFrom []) equal
  refine ⟨fun n => same ?_, fun current held calls reached => ?_, fun name d modifier known several => ⟨same ?_, ?_⟩⟩
  · rw [List.append_assoc, walkAfter, walkAfter]
    exact bind_congr fun p => thisIdle _ p.1 p.2 n ys
  · have last := reachedEnds o registry root fanOut (passEnds _ none scope xs) reached
    exact last.trans Option.or_none
  · rw [walkAfter, walkAfter, passNarrowed (o.resolver registry root fanOut) known several]
  · intro last found calls
    refine ⟨?_, reachedEnds o registry root fanOut (passDefines _ known scope _)⟩
    have definite := stepDefinite o registry root fanOut
    rw [← passReaches definite, ← passReaches definite, passNarrowed (o.resolver registry root fanOut) known several]

end Runs

def tagged : Registry where
  definitions := [.component "item" (.css "li") true [.collection "tag" ⟨.js, "tags"⟩]]

def taggedOutcomes : Outcomes Nat where
  root _ := .ok 0
  first _ _ := .ok 0
  all _ _ := .ok [1, 2]
  text _ := .ok ""
  script _ := .ok (.one 7)
  delay _ _ _ := 0

def taggedRun (steps : List Step) : Except ResolveError (Scope Nat) × List (Call Nat) :=
  taggedOutcomes.resolved tagged (.css "html") .concurrent steps (.one 0)

theorem thisHandsOnTags :
    tagged.definitionOf (tagged.met none [.named "item"]).getLast? "tag" = .ok (.collection "tag" ⟨.js, "tags"⟩) ∧
    (Definition.collection "tag" ⟨.js, "tags"⟩).isCollection = true ∧
    taggedRun ([.named "item"] ++ [.named "tag", ⟨.this, some (.index (.exact .last))⟩] ++ [.this]) =
      (.ok (.one 7), [.find .all 0 (.find .css "li"), .script "tags"]) ∧
    Reaches (taggedOutcomes.resolver tagged (.css "html") .concurrent) none (.one 0)
      ([.named "item"] ++ [.named "tag", ⟨.this, some (.index (.exact .last))⟩])
      (some (.collection "tag" ⟨.js, "tags"⟩)) (.one 7) [.find .all 0 (.find .css "li"), .script "tags"] := by
  have known : tagged.definitionOf (tagged.met none [.named "item"]).getLast? "tag" =
      .ok (.collection "tag" ⟨.js, "tags"⟩) := rfl
  have run : taggedRun ([.named "item"] ++ [⟨.named "tag", some (.index (.exact .last))⟩] ++ [.this]) =
      (.ok (.one 7), [.find .all 0 (.find .css "li"), .script "tags"]) := rfl
  have items : Answers ((taggedOutcomes.resolver tagged (.css "html") .concurrent).step none (.one 0) (.named "item"))
      (.ok (tagged.definitions.head?, .many [1, 2])) [.find .all 0 (.find .css "li")] := fun _ => rfl
  have tags : Answers ((taggedOutcomes.resolver tagged (.css "html") .concurrent).step tagged.definitions.head?
      (.many [1, 2]) ⟨.named "tag", some (.index (.exact .last))⟩)
      (.ok (some (.collection "tag" ⟨.js, "tags"⟩), .one 7)) [.script "tags"] := fun _ => rfl
  have reached := Reaches.step items (.step tags (.here _ _))
  obtain ⟨same, reaches⟩ := (thisHandsOn taggedOutcomes tagged (.css "html") .concurrent (.one 0) [.named "item"]
    [.this]).2.2 "tag" _ (.index (.exact .last)) known rfl
  exact ⟨known, rfl, same.symm.trans run, (reaches _ _ _).1.mp reached⟩

end LocatorPath
