import LocatorPath.Proofs.Resolve.DocumentOrder
import LocatorPath.Proofs.Resolve.FanOut
import LocatorPath.Proofs.Resolve.Likeness
import LocatorPath.Proofs.WebDriver.Marked

/-! A page behind a server and the same page in memory. The tags of a script come off before the call ends, so
between the calls the server holds the page as it was, and resolutions cannot tell the two drivers apart. -/
namespace LocatorPath

variable {β : Type}

def PageNode.served (node : PageNode) : ServerNode where
  parent := node.parent
  selectors := node.selectors
  text := node.text
  stale := node.stale
  tag := none

namespace Page

structure Calm (p : Page) : Prop where
  present : ∀ node ∈ p.nodes, node.stale = false
  findable : ∀ node ∈ p.nodes, node.findFailure = none
  readable : ∀ node ∈ p.nodes, node.textFailure = none

structure Hands (p : Page) (source : String) (scope : Scope Nat) : Prop where
  entry : p.scripts.lookup source = some (.ok scope)
  distinct : scope.toList.Nodup
  inside : ∀ n ∈ scope.toList, n < p.size
  fits : scope.toList.length ≤ UInt64.size

def Knows (p : Page) : Locator → Prop
  | .find how _ => how = .css ∨ how = .xpath
  | .script source => ∃ scope, p.Hands source scope

end Page

namespace Server

structure Serves (s : Server) (p : Page) : Prop where
  nodes : s.nodes = p.nodes.map PageNode.served
  reliable : s.Reliable
  scripts : ∀ source scope, p.scripts.lookup source = some (.ok scope) →
    s.scripts.lookup source = some ⟨.ok (.ofScope scope), none⟩

namespace Serves

variable {s later : Server} {p : Page}

theorem size (serves : s.Serves p) : s.size = p.size := by
  rw [Server.size, serves.nodes, List.length_map]
  rfl

theorem untagged (serves : s.Serves p) (n : Nat) : s.tagOf n = none := by
  rw [tagOf, serves.nodes, List.getElem?_map]
  cases p.nodes[n]? <;> rfl

theorem honest (serves : s.Serves p) : s.Honest := by
  intro node inside
  rw [serves.nodes] at inside
  obtain ⟨_, _, rfl⟩ := List.mem_map.mp inside
  rfl

theorem attached (serves : s.Serves p) {n : Nat} (inside : n < p.size) : s.isAttached n = true := by
  have here : p.nodes[n]? = some p.nodes[n] := List.getElem?_eq_getElem inside
  rw [isAttached, serves.nodes, List.getElem?_map, here]
  rfl

theorem alike (serves : s.Serves p) (alike : later.bare = s.bare) (untagged : ∀ n, later.tagOf n = none) :
    later.Serves p := by
  have plain {t : Server} (none : ∀ n, t.tagOf n = none) : t.bare.nodes = t.nodes := by
    refine List.ext_getElem? fun n => ?_
    have tag := none n
    simp only [tagOf, bare, List.getElem?_map] at tag ⊢
    cases node : t.nodes[n]? with
    | none => rfl
    | some node' =>
      rw [node] at tag
      have bare : node'.tag = Option.none := tag
      simp only [Option.map_some, ServerNode.bare, ← bare]
  have same : later.nodes = s.nodes := by
    rw [← plain untagged, ← plain serves.untagged, alike]
  refine ⟨same.trans serves.nodes, (reliableAlike alike).mpr serves.reliable, fun source scope entry => ?_⟩
  rw [scriptsAlike alike]
  exact serves.scripts source scope entry

theorem heard (serves : s.Serves p) (c : Command Nat) : (s.heard c).Serves p := serves.alike rfl serves.untagged

theorem receives (serves : s.Serves p) (c : Command Nat) : s.receive c = (s.heard c).perform c :=
  (receiveOutcome s c).resolve_right fun failed => failed.2 serves.reliable

theorem matching (serves : s.Serves p) (selector : String) : s.matching selector = p.matching selector := by
  rw [Server.matching, nodesWhere, serves.size, Page.matching]
  refine List.filter_congr fun n _ => ?_
  rw [serves.nodes, List.getElem?_map, Page.isMatch]
  cases p.nodes[n]? <;> rfl

theorem matchingBelow (serves : s.Serves p) (n : Nat) (selector : String) :
    s.matchingBelow n selector = p.matchingBelow n selector := by
  have parents : s.parent? = p.parent? := by
    funext k
    rw [parent?, serves.nodes, List.getElem?_map, Page.parent?]
    cases p.nodes[k]? <;> rfl
  simp only [Server.matchingBelow, Page.matchingBelow, isBelow, Page.isBelow, serves.matching, serves.size, parents]

end Serves

end Server

namespace Page

variable {p : Page}

section Memory

variable (calm : p.Calm)

include calm

theorem liveNode {n : Nat} (inside : n < p.size) : p.live n = .ok p.nodes[n] := by
  have member : p.nodes[n] ∈ p.nodes := List.getElem_mem inside
  have here : p.nodes[n]? = some p.nodes[n] := List.getElem?_eq_getElem inside
  simp [live, here, calm.present _ member]

theorem searchMatches {n : Nat} (inside : n < p.size) (how : Using) (value : String) :
    p.search n (.find how value) = .ok (p.matchingBelow n value) := by
  have member : p.nodes[n] ∈ p.nodes := List.getElem_mem inside
  simp [search, liveNode calm inside, calm.findable _ member, bind, Except.bind]

theorem textRead {n : Nat} (inside : n < p.size) : p.outcomes.text n = .ok p.nodes[n].text := by
  have member : p.nodes[n] ∈ p.nodes := List.getElem_mem inside
  simp [outcomes, liveNode calm inside, calm.readable _ member, bind, Except.bind]

end Memory

theorem findInside {extent : Extent} {l : Locator} {n : Nat} {found : List Nat}
    (finds : p.outcomes.find extent n l = .ok found) : ∀ k ∈ found, k < p.size := by
  have seen (k : Nat) (inside : k ∈ p.seen (fun l n => p.isMatch l.value n) l n) : k < p.size :=
    List.mem_range.mp (List.mem_filter.mp inside).1
  have shown := outcomesFind finds
  cases extent with
  | all =>
    cases shown
    exact seen
  | first =>
    obtain ⟨k, head, rfl⟩ := shown
    simpa using seen k (List.mem_of_head? head)

theorem firstOfMember {l : Locator} {ns : List Nat} {n : Nat} (first : firstOf l ns = .ok n) : n ∈ ns := by
  cases ns with
  | nil => cases first
  | cons k rest =>
    cases first
    exact List.mem_cons_self

/-! ## Programs of the client -/

variable {ε : Type}

def Served (p : Page) (x : ExceptT ε (StateM Server) β) (out : Except ε β) : Prop :=
  ∀ s, s.Serves p → ∃ later, later.Serves p ∧ endOf x s = (out, later)

theorem Served.adapt {ε' : Type} {x : ExceptT ε (StateM Server) β} {out : Except ε β} (f : ε → ε')
    (served : p.Served x out) : p.Served (ExceptT.adapt f x) (out.mapError f) := by
  intro s serves
  obtain ⟨later, still, ended⟩ := served s serves
  refine ⟨later, still, ?_⟩
  rw [endOfAdapt, ended]

theorem Served.map {γ : Type} {x : ExceptT ε (StateM Server) β} {out : Except ε β} (f : β → γ)
    (served : p.Served x out) : p.Served (x >>= fun b => pure (f b)) (out.map f) := by
  intro s serves
  obtain ⟨later, still, ended⟩ := served s serves
  refine ⟨later, still, ?_⟩
  rw [endOfBind, ended]
  cases out <;> rfl

theorem askServed {pick : Reply Nat → Option β} {c : Command Nat} {answer : Except CommandError (Reply Nat)}
    {out : Except CommandError β} (performs : ∀ s : Server, s.Serves p → s.perform c = (answer, s))
    (taken : answer >>= (fun reply => (pick reply).elim (.error .unexpected) .ok) = out) :
    p.Served (Server.wire.askFor pick c) out := by
  intro s serves
  refine ⟨s.heard c, serves.heard c, ?_⟩
  have sent : endOf (Server.wire c) s = (answer, s.heard c) :=
    (serves.receives c).trans (performs _ (serves.heard c))
  rw [Wire.askFor, endOfBind, sent, ← taken]
  cases answer with
  | error e => rfl
  | ok reply =>
    simp only [Reply.taken, bind, Except.bind]
    cases pick reply <;> rfl

theorem firstServed {c : Command Nat} {ns : List Nat} (l : Locator)
    (performs : ∀ s : Server, s.Serves p → s.perform c = (Server.firstOf ns, s)) :
    p.Served (ExceptT.adapt (Client.findError l) (Server.wire.askElement c)) (firstOf l ns) := by
  rw [Wire.askElementFor]
  cases ns with
  | nil =>
    have asked : p.Served (Server.wire.askFor Reply.element? c) (.error Server.noSuchElement) :=
      askServed performs rfl
    exact asked.adapt (Client.findError l)
  | cons n rest =>
    have asked : p.Served (Server.wire.askFor Reply.element? c) (.ok n) := askServed performs rfl
    exact asked.adapt (Client.findError l)

section Finds

variable {how : Using} {value : String} (known : p.Knows (.find how value))

include known

theorem browserKnows : Client.supported (.find how value) = .ok (how, value) := by
  rcases known with rfl | rfl <;> rfl

theorem rootServed :
    p.Served (Client.findRoot Server.wire (.find how value)) (p.outcomes.root (.find how value)) := by
  simp only [Client.findRoot, browserKnows known]
  exact firstServed _ fun s serves => congrArg (fun ns => (Server.firstOf ns, s)) (serves.matching value)

variable (calm : p.Calm)

include calm

theorem findFirstServed {n : Nat} (inside : n < p.size) :
    p.Served (Client.findFirst Server.wire n (.find how value)) (p.outcomes.first n (.find how value)) := by
  have found : p.outcomes.first n (.find how value) = firstOf (.find how value) (p.matchingBelow n value) := by
    simp only [outcomes, searchMatches calm inside]
    rfl
  rw [found]
  simp only [Client.findFirst, browserKnows known]
  exact firstServed _ fun s serves => congrArg (fun ns => (Server.firstOf ns, s)) (serves.matchingBelow n value)

theorem findAllServed {n : Nat} (inside : n < p.size) :
    p.Served (Client.findAll Server.wire n (.find how value)) (p.outcomes.all n (.find how value)) := by
  have found : p.outcomes.all n (.find how value) = .ok (p.matchingBelow n value) :=
    searchMatches calm inside how value
  rw [found]
  simp only [Client.findAll, browserKnows known, Wire.askElementsFor]
  have performs (s : Server) (serves : s.Serves p) :
      s.perform (.find .all n how value) = (.ok (.elements (p.matchingBelow n value)), s) :=
    congrArg (fun ns => (Except.ok (Reply.elements ns), s)) (serves.matchingBelow n value)
  have asked : p.Served (Server.wire.askFor Reply.elements? (.find .all n how value))
      (.ok (p.matchingBelow n value)) := askServed performs rfl
  exact asked.adapt _

theorem findServed (extent : Extent) {n : Nat} (inside : n < p.size) :
    p.Served (Client.find Server.wire extent (.find how value) n) (p.outcomes.find extent n (.find how value)) := by
  cases extent with
  | all => exact findAllServed known calm inside
  | first =>
    rw [findFirstMap]
    exact (findFirstServed known calm inside).map fun b => [b]

theorem findEachServed (extent : Extent) {ns : List Nat} (inside : ∀ n ∈ ns, n < p.size) :
    p.Served (ExceptT.mk (Client.findEach Server.wire extent (.find how value) ns))
      (ns.mapM fun n => p.outcomes.find extent n (.find how value)) := by
  induction ns with
  | nil => exact fun s serves => ⟨s, serves, rfl⟩
  | cons n rest ih =>
    obtain ⟨here, later⟩ := List.forall_mem_cons.mp inside
    intro s serves
    obtain ⟨between, still, found⟩ := findServed known calm extent here s serves
    obtain ⟨last, again, others⟩ := ih later between still
    refine ⟨last, again, ?_⟩
    rw [List.mapM_cons]
    unfold endOf at found others ⊢
    simp only [ExceptT.run_mk, Client.findEach, StateT.run_bind, Id.run_bind] at others ⊢
    rw [found, others]
    rfl

/- All finds of one fan fail alike, so it does not matter which failure is seen. -/
theorem findTogetherServed (extent : Extent) {ns : List Nat} (inside : ∀ n ∈ ns, n < p.size) :
    p.Served (Client.findTogether Server.wire extent ns (.find how value))
      (p.outcomes.together extent (.find how value) ns) := by
  have sent : Client.findTogether Server.wire extent ns (.find how value) =
      ExceptT.mk (Client.findEach Server.wire extent (.find how value) ns) := by
    simp only [Client.findTogether, browserKnows known]
    rfl
  have only (e : DriverError) (some : (Fan.mk extent (.find how value) ns).FailsWith p.outcomes e) :
      e = .noSuchElement (Locator.find how value).render := by
    obtain ⟨n, member, fails⟩ := some
    have found := searchMatches calm (inside n member) how value
    cases extent with
    | all =>
      simp only [Outcomes.find, outcomes, found] at fails
      cases fails
    | first =>
      simp only [Outcomes.find, outcomes, found] at fails
      cases ns : p.matchingBelow n value with
      | nil =>
        rw [ns] at fails
        cases fails
        rfl
      | cons k rest =>
        rw [ns] at fails
        cases fails
  rw [sent, p.outcomes.togetherInTurn extent (.find how value) only]
  exact findEachServed known calm extent inside

end Finds

theorem textServed (calm : p.Calm) {n : Nat} (inside : n < p.size) :
    p.Served (Client.text Server.wire n) (p.outcomes.text n) := by
  have here : p.nodes[n]? = some p.nodes[n] := List.getElem?_eq_getElem inside
  rw [textRead calm inside, Client.text, Wire.askTextFor]
  have asked : p.Served (Server.wire.askFor Reply.text? (.text n)) (.ok p.nodes[n].text) := by
    have performs (s : Server) (serves : s.Serves p) :
        s.perform (.text n) = (.ok (.text p.nodes[n].text), s) := by
      simp only [Server.perform, serves.nodes, List.getElem?_map, here]
      rfl
    exact askServed performs rfl
  exact asked.adapt _

/-! ## The two drivers -/

def mirror (p : Page) : Likeness (Client.Session (StateM Server)) (Recorder Nat) where
  Same good x y := ∀ mark s log, s.Serves p → ∃ b next later calls,
    Id.run ((x.run mark).run s) = ((b, next), later) ∧ Id.run (y.run log) = (b, calls) ∧ good b ∧ later.Serves p
  pure holds := fun mark s log serves => ⟨_, mark, s, log, rfl, rfl, holds, serves⟩
  bind first second := by
    intro mark s log serves
    obtain ⟨b, next, later, calls, one, two, holds, still⟩ := first mark s log serves
    obtain ⟨c, last, final, all, one', two', fine, again⟩ := second b holds next later calls still
    refine ⟨c, last, final, all, ?_, ?_, fine, again⟩
    · simp only [StateT.run_bind, Id.run_bind]
      rw [one]
      exact one'
    · simp only [StateT.run_bind, Id.run_bind]
      rw [two]
      exact two'

variable {good : β → Prop} {out : Except DriverError β}

theorem plainAlike {x : ExceptT DriverError (StateM Server) β} {y : ExceptT DriverError (Recorder Nat) β}
    {calls : List (Call Nat)} (served : p.Served x out) (answers : Answers y out calls)
    (holds : ∀ b, out = .ok b → good b) : p.mirror.Alike good (Client.plain x) y := by
  intro mark s log serves
  obtain ⟨later, still, ended⟩ := served s serves
  refine ⟨out, mark, later, log ++ calls, ?_, answers log, holds, still⟩
  have lifted : Id.run (((Client.plain x).run.run mark).run s) = (((endOf x s).1, mark), (endOf x s).2) := rfl
  rw [lifted, ended]

theorem scriptServed {source : String} {scope : Scope Nat} (hands : p.Hands source scope) {s : Server}
    (serves : s.Serves p) (mark : Tag.Mark) : ∃ later : Server, later.Serves p ∧
      Id.run (((Client.runScript Server.wire source).run.run mark).run s) = ((.ok scope, mark + 1), later) := by
  have returns : Server.Returns source scope s :=
    ⟨serves.scripts source scope hands.entry, hands.distinct, fun n inside => serves.attached (hands.inside n inside),
      hands.fits⟩
  have unused : Server.Unused mark s := fun n => by rw [serves.untagged n]; rfl
  have keeps := Server.scriptKeeps source mark (.ofScope scope) scope.toList s
  obtain ⟨⟨next, answered⟩, touched⟩ := keeps.finish .refl .refl fun _ _ _ => .trans
  rw [← Client.runScriptFinish] at next answered touched
  rw [returns.itemsOf] at touched
  generalize ((Client.runScript Server.wire source).run.run mark).run s = ended at next answered touched ⊢
  obtain ⟨⟨out, following⟩, later⟩ := ended
  have result : out = .ok scope := (answered.returned returns serves.honest unused).resolve_right
    fun ⟨unreliable, _⟩ => unreliable serves.reliable
  have cleared : Server.Cleared mark later := answered.cleared.resolve_right
    fun ⟨unsure, _⟩ => unsure (returns.sure serves.reliable)
  -- a tag that was put on is on a node of the document, and there the call has taken its tags off
  refine ⟨later, serves.alike touched.alike fun n => ?_, ?_⟩
  · rcases touched.tags n with same | ⟨off, _⟩ | ⟨place, inside, put⟩
    · exact same.trans (serves.untagged n)
    · exact off
    · have member : n ∈ scope.toList := by simpa using List.mem_of_getElem? inside
      have attached : later.isAttached n = true := by
        rw [Server.attachedAlike touched.alike]
        exact returns.attached n member
      have tagged : Server.isTagged mark (later.tagOf n) = true := by
        rw [put]
        exact Tag.ownTagged mark place
      have clean := cleared n attached
      rw [tagged] at clean
      cases clean
  · rw [result, show following = mark + 1 from next]
    rfl

theorem driversAlike (calm : p.Calm) :
    (Client.driver Server.wire).Alike p.mirror (· < p.size) p.Knows p.outcomes.driver where
  root how value known := by
    refine plainAlike (rootServed known) (answeredAnswers _ _) fun n found => ?_
    exact List.mem_range.mp (List.mem_filter.mp (firstOfMember found)).1
  first n how value inside known := by
    refine plainAlike (findFirstServed known calm inside) (answeredAnswers _ _) fun k found => ?_
    have finds : p.outcomes.find .first n (.find how value) = .ok [k] := by
      rw [findFirstMap, found]
      rfl
    exact findInside finds k List.mem_cons_self
  all n how value inside known := by
    refine plainAlike (findAllServed known calm inside) (answeredAnswers _ _) fun ks found => ?_
    have finds : p.outcomes.find .all n (.find how value) = .ok ks := found
    exact findInside finds
  together extent ns how value inside known := by
    refine plainAlike (findTogetherServed known calm extent inside) (findTogetherAnswers _ _ _ _)
      fun founds found k member => ?_
    obtain ⟨ks, among, here⟩ := List.mem_flatten.mp member
    obtain ⟨n, _, finds⟩ := forall₂Member (togetherOk found) among
    exact findInside finds k here
  text n inside := plainAlike (textServed calm inside) (answeredAnswers _ _) fun _ _ => trivial
  script source known := by
    obtain ⟨scope, hands⟩ := known
    intro mark s log serves
    obtain ⟨later, still, ended⟩ := scriptServed hands serves mark
    refine ⟨.ok scope, mark + 1, later, log ++ [.script source], ended, ?_, ?_, still⟩
    · have entry : p.outcomes.script source = .ok scope := by simp only [outcomes, hands.entry]
      have answers := answeredAnswers (.script source) (p.outcomes.script source) log
      exact answers.trans (congrArg (·, log ++ [.script source]) entry)
    · rintro _ ⟨⟩
      exact hands.inside

def answers (p : Page) (registry : Registry) (options : ResolveOptions) (questions : List Question)
    (log : List (Call Nat)) : List (Except ResolveError (Finding Nat)) :=
  (Id.run (((Resolver.mk p.outcomes.driver registry options).askAll questions).run log)).1

def hostedEntry (outcome : Except DriverError (Scope Nat)) : ScriptEntry :=
  ⟨(outcome.mapError DriverError.message).map ScriptResult.ofScope, none⟩

def hosted (p : Page) : Server where
  nodes := p.nodes.map PageNode.served
  scripts := p.scripts.map fun entry => (entry.1, hostedEntry entry.2)
  fails _ _ := none
  url := ""

theorem hostedLookup {entries : List (String × Except DriverError (Scope Nat))} {source : String} {scope : Scope Nat}
    (here : entries.lookup source = some (.ok scope)) :
    (entries.map fun entry => (entry.1, hostedEntry entry.2)).lookup source = some ⟨.ok (.ofScope scope), none⟩ := by
  induction entries with
  | nil => cases here
  | cons head rest ih =>
    rw [List.map_cons, List.lookup_cons]
    rw [List.lookup_cons] at here
    split at here
    · rw [Option.some.inj here]
      rfl
    · exact ih here

theorem hostedServes (calm : p.Calm) : p.hosted.Serves p := by
  refine ⟨rfl, ⟨rfl, fun _ _ => rfl, fun node inside => ?_⟩, fun source scope entry => hostedLookup entry⟩
  obtain ⟨plain, member, rfl⟩ := List.mem_map.mp inside
  exact calm.present plain member

end Page

def Server.answers (s : Server) (mark : Tag.Mark) (registry : Registry) (options : ResolveOptions)
    (questions : List Question) : List (Except ResolveError (Finding Nat)) × Server :=
  let ((answers, _), later) :=
    Id.run ((((Resolver.mk (Client.driver wire) registry options).askAll questions).run mark).run s)
  (answers, later)

/- Whatever was asked before, and whatever mark the session has come to, both drivers give the same answer. -/
theorem sameAnswers {p : Page} {s : Server} {registry : Registry} {options : ResolveOptions} (calm : p.Calm)
    (serves : s.Serves p) (known : ∀ d, registry.Defines d → p.Knows d.selector.locator)
    (root : options.root.strategy = .css ∨ options.root.strategy = .xpath) (questions : List Question)
    (mark : Tag.Mark) (log : List (Call Nat)) :
    (s.answers mark registry options questions).1 = p.answers registry options questions log ∧
      (s.answers mark registry options questions).2.Serves p := by
  obtain ⟨how, value, locator, start⟩ :
      ∃ how value, options.root.locator = .find how value ∧ (how = .css ∨ how = .xpath) := by
    unfold Selector.locator
    rcases root with css | xpath
    · exact ⟨.css, _, by rw [css], .inl rfl⟩
    · exact ⟨.xpath, _, by rw [xpath], .inr rfl⟩
  have alike := askAllAlike (Page.driversAlike calm) registry known locator start questions
  obtain ⟨answers, next, later, calls, one, two, _, still⟩ := alike mark s log serves
  constructor
  · rw [Server.answers, one, Page.answers, two]
  · rw [Server.answers, one]
    exact still

def scriptedPage : Page where
  nodes := [⟨none, ["html"], "", false, 0, none, none⟩, ⟨some 0, ["ul"], "", false, 5, none, none⟩,
    ⟨some 1, ["li"], "first", false, 0, none, none⟩, ⟨some 1, ["li"], "second", false, 0, none, none⟩]
  scripts := [("turned", .ok (.many [3, 2])), ("last", .ok (.one 3))]

def scriptedParts : Registry where
  definitions := [.element "last" ⟨.js, "last"⟩, .collection "turned" ⟨.js, "turned"⟩]

def scriptedRegistry : Registry where
  definitions := [.collection "items" (.css "li"), .component "list" (.css "ul") false scriptedParts.definitions]

theorem scriptedCalm : scriptedPage.Calm := by
  constructor <;> simp [scriptedPage]

theorem scriptedKnown (d : Definition) (defined : scriptedRegistry.Defines d) :
    scriptedPage.Knows d.selector.locator := by
  have turned : scriptedPage.Hands "turned" (.many [3, 2]) := ⟨rfl, by decide, by decide, by decide⟩
  have last : scriptedPage.Hands "last" (.one 3) := ⟨rfl, by decide, by decide, by decide⟩
  rcases definesBelow.mp defined with inside | ⟨g, inside, children, below, deeper⟩
  · simp only [scriptedRegistry, List.mem_cons, List.not_mem_nil, or_false] at inside
    rcases inside with rfl | rfl
    · exact .inl rfl
    · exact .inl rfl
  · simp only [scriptedRegistry, List.mem_cons, List.not_mem_nil, or_false] at inside
    rcases inside with rfl | rfl
    · cases below
    · rw [Definition.childrenComponent] at below
      cases below
      rcases definesBelow.mp deeper with inside | ⟨h, inside, leaves, none, _⟩
      · simp only [scriptedParts, List.mem_cons, List.not_mem_nil, or_false] at inside
        rcases inside with rfl | rfl
        · exact ⟨_, last⟩
        · exact ⟨_, turned⟩
      · simp only [scriptedParts, List.mem_cons, List.not_mem_nil, or_false] at inside
        rcases inside with rfl | rfl <;> cases none

theorem sameAnswersScripted : (scriptedPage.hosted.answers 7 scriptedRegistry {}
    [.texts "list > turned", .elements "list > last", .texts "items > #1 of last"]).1 =
      [.ok (.texts ["second", "first"]), .ok (.elements (.one 3)), .error (.aliasNotFound ⟨"last", []⟩)] := by
  have root : ({} : ResolveOptions).root.strategy = .css ∨ ({} : ResolveOptions).root.strategy = .xpath := .inl rfl
  rw [(sameAnswers scriptedCalm (Page.hostedServes scriptedCalm) scriptedKnown root _ 7 []).1]
  decide +kernel

end LocatorPath
