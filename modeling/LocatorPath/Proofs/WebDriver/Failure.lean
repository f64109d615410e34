import Mathlib.Data.List.Infix
import LocatorPath.Proofs.WebDriver.Conduct

/-! How failed commands are told. That an element is missing is told by the code of the error, but that it is stale by
the message, which may quote anything. So an error is told by its code just when its message speaks of a stale element
exactly for that code. -/
namespace LocatorPath

theorem partIff {part text : List Char} : isPartOf part text = true ↔ part <:+: text := by
  induction text with
  | nil => simp [isPartOf]
  | cons c rest ih => rw [isPartOf, Bool.or_eq_true, ih, List.isPrefixOf_iff_prefix, List.infix_cons_iff]

theorem infixAfter {c : Char} {part front back : List Char} (free : c ∉ front) :
    c :: part <:+: front ++ back ↔ c :: part <:+: back := by
  induction front with
  | nil => rfl
  | cons d front ih =>
    obtain ⟨other, free⟩ := List.ne_and_not_mem_of_not_mem_cons free
    rw [List.cons_append, List.infix_cons_iff, ih free, or_iff_right]
    intro starts
    exact other (List.cons_prefix_cons.mp starts).1

namespace Client

variable {l : Locator} {code message : String} {d : DriverError}

structure ByCode (code : String) (d : DriverError) : Prop where
  stale : (∃ text, d = .staleElement text) ↔ code = "stale element reference"
  other : (∃ text, d = .other text) ↔ code ≠ "stale element reference"

structure FindByCode (l : Locator) (code : String) (d : DriverError) : Prop where
  missing : d = .noSuchElement l.render ↔ code = "no such element"
  stale : (∃ text, d = .staleElement text) ↔ code = "stale element reference"
  other : (∃ text, d = .other text) ↔ code ≠ "no such element" ∧ code ≠ "stale element reference"

def SpeaksStale (message : String) : Prop := "stale element".toList <:+: message.toList

structure ElementTold (code message : String) (d : DriverError) : Prop where
  stale : SpeaksStale message → d = .staleElement ("webdriver returned error: " ++ message)
  other : ¬ SpeaksStale message → d = .other ("webdriver returned error: " ++ message)
  byCode : ByCode code d ↔ (SpeaksStale message ↔ code = "stale element reference")

structure FindTold (l : Locator) (code message : String) (d : DriverError) : Prop where
  missing : d = .noSuchElement l.render ↔ code = "no such element"
  others : code ≠ "no such element" → ElementTold code message d
  byCode : FindByCode l code d ↔
    code = "no such element" ∨ (SpeaksStale message ↔ code = "stale element reference")

theorem staleRendered : isPartOf "stale element".toList (CommandError.answered code message).message.toList = true ↔
    SpeaksStale message := by
  have word : "stale element".toList = 's' :: "tale element".toList := by decide
  have free : 's' ∉ "webdriver returned error: ".toList := by decide
  have rendered : (CommandError.answered code message).message = "webdriver returned error: " ++ message := rfl
  rw [partIff, rendered, String.toList_append, SpeaksStale, word]
  exact infixAfter free

theorem elementErrorCases (code message : String) :
    SpeaksStale message ∧
        elementError (.answered code message) = .staleElement ("webdriver returned error: " ++ message) ∨
      ¬ SpeaksStale message ∧
        elementError (.answered code message) = .other ("webdriver returned error: " ++ message) := by
  by_cases speaks : SpeaksStale message
  · exact .inl ⟨speaks, if_pos (staleRendered.mpr speaks)⟩
  · exact .inr ⟨speaks, if_neg (mt staleRendered.mp speaks)⟩

theorem byCodeStale {text : String} : ByCode code (.staleElement text) ↔ code = "stale element reference" := by
  refine ⟨fun told => told.stale.mp ⟨text, rfl⟩, fun same => ⟨iff_of_true ⟨text, rfl⟩ same, ?_⟩⟩
  exact iff_of_false (by simp) (not_not.mpr same)

theorem byCodeOther {text : String} : ByCode code (.other text) ↔ code ≠ "stale element reference" := by
  refine ⟨fun told => told.other.mp ⟨text, rfl⟩, fun apart => ⟨iff_of_false (by simp) apart, ?_⟩⟩
  exact iff_of_true ⟨text, rfl⟩ apart

theorem elementTold (code message : String) : ElementTold code message (elementError (.answered code message)) := by
  rcases elementErrorCases code message with ⟨speaks, told⟩ | ⟨plain, told⟩
  · rw [told]
    refine ⟨fun _ => rfl, absurd speaks, ?_⟩
    rw [byCodeStale, iff_true_left speaks]
  · rw [told]
    refine ⟨fun speaks => absurd speaks plain, fun _ => rfl, ?_⟩
    rw [byCodeOther, iff_false_left plain]

theorem findErrorMissing (l : Locator) (message : String) :
    findError l (.answered "no such element" message) = .noSuchElement l.render := rfl

theorem findErrorOther (apart : code ≠ "no such element") (l : Locator) (message : String) :
    findError l (.answered code message) = elementError (.answered code message) := by
  unfold findError
  split
  · next same =>
    cases same
    exact absurd rfl apart
  · rfl

/- A find tells a missing element by the code, and everything else as other commands do. -/
theorem findTold (l : Locator) (code message : String) :
    FindTold l code message (findError l (.answered code message)) := by
  by_cases none : code = "no such element"
  · subst none
    have apart : "no such element" ≠ "stale element reference" := by decide
    refine ⟨iff_of_true rfl rfl, absurd rfl, iff_of_true ⟨?_, ?_, ?_⟩ (.inl rfl)⟩
    · exact iff_of_true rfl rfl
    · exact iff_of_false (by simp [findErrorMissing]) apart
    · exact iff_of_false (by simp [findErrorMissing]) fun both => both.1 rfl
  · have told := elementTold code message
    rw [findErrorOther none]
    have present : elementError (.answered code message) ≠ .noSuchElement l.render := by
      rcases elementErrorCases code message with ⟨_, same⟩ | ⟨_, same⟩ <;> simp [same]
    refine ⟨iff_of_false present none, fun _ => told, ?_⟩
    rw [or_iff_right none, ← told.byCode]
    constructor
    · exact fun find => ⟨find.stale, by simpa [none] using find.other⟩
    · exact fun element => ⟨iff_of_false present none, element.stale, by simpa [none] using element.other⟩

section Sending

variable {β γ ε : Type} {s between : Server} {mark : Tag.Mark} {e : CommandError} {u : Using} {value : String}
  {extent : Extent} {n : Nat}

def sentTo (action : ExceptT DriverError (Session (StateM Server)) β) (mark : Tag.Mark) (s : Server) :
    Except DriverError β × Server :=
  let ((out, _), last) := (action.run.run mark).run s
  (out, last)

theorem askFails {pick : Reply Nat → Option β} {c : Command Nat} (f : CommandError → ε)
    (fails : (s.receive c).1 = .error e) :
    ((ExceptT.adapt f (Server.wire.askFor pick c)).run.run s).1 = .error (f e) := by
  change Except.mapError f
    ((ExceptT.bindCont (Reply.taken pick) (s.receive c).1 : StateM Server _) (s.receive c).2).1 = _
  rw [fails]
  rfl

theorem bindFails {x : ExceptT ε (StateM Server) β} {next : β → ExceptT ε (StateM Server) γ} {d : ε}
    (fails : (x.run.run s).1 = .error d) : ((x >>= next).run.run s).1 = .error d := by
  change ((ExceptT.bindCont next (x.run.run s).1 : StateM Server _) (x.run.run s).2).1 = _
  rw [fails]
  rfl

theorem sentBindFails {x : ExceptT DriverError (Session (StateM Server)) β}
    {next : β → ExceptT DriverError (Session (StateM Server)) γ} {d : DriverError}
    (fails : (sentTo x mark s).1 = .error d) : (sentTo (x >>= next) mark s).1 = .error d := by
  change ((x.run.run mark).run s).1.1 = _ at fails
  change ((ExceptT.bindCont next ((x.run.run mark).run s).1.1 : Session (StateM Server) _)
    ((x.run.run mark).run s).1.2 ((x.run.run mark).run s).2).1.1 = _
  rw [fails]
  rfl

theorem findRootFails (known : supported l = .ok (u, value)) (fails : (s.receive (.findRoot u value)).1 = .error e) :
    ((findRoot Server.wire l).run.run s).1 = .error (findError l e) := by
  rw [findRoot, known]
  simp only [Wire.askElementFor]
  exact askFails (findError l) fails

theorem textFails (fails : (s.receive (.text n)).1 = .error e) :
    ((text Server.wire n).run.run s).1 = .error (elementError e) := by
  rw [text, Wire.askTextFor]
  exact askFails elementError fails

theorem findFirstFails (known : supported l = .ok (u, value))
    (fails : (s.receive (.find .first n u value)).1 = .error e) :
    ((findFirst Server.wire n l).run.run s).1 = .error (findError l e) := by
  rw [findFirst, known]
  simp only [Wire.askElementFor]
  exact askFails (findError l) fails

theorem findAllFails (known : supported l = .ok (u, value))
    (fails : (s.receive (.find .all n u value)).1 = .error e) :
    ((findAll Server.wire n l).run.run s).1 = .error (findError l e) := by
  rw [findAll, known]
  simp only [Wire.askElementsFor]
  exact askFails (findError l) fails

theorem findFails (known : supported l = .ok (u, value)) (fails : (s.receive (.find extent n u value)).1 = .error e) :
    ((find Server.wire extent l n).run.run s).1 = .error (findError l e) := by
  cases extent with
  | first => exact bindFails (findFirstFails known fails)
  | all => exact findAllFails known fails

theorem driverFindFails (known : supported l = .ok (u, value))
    (fails : (s.receive (.find extent n u value)).1 = .error e) :
    (sentTo ((driver Server.wire).find extent n l) mark s).1 = .error (findError l e) := by
  cases extent with
  | first =>
    have first : (sentTo ((driver Server.wire).findFirst n l) mark s).1 = .error (findError l e) :=
      findFirstFails known fails
    exact sentBindFails first
  | all => exact findAllFails known fails

theorem findEachFails {front back : List Nat} {founds : List (List Nat)} {d : DriverError}
    (before : (findEach Server.wire extent l front).run s = (.ok founds, between))
    (fails : ((find Server.wire extent l n).run.run between).1 = .error d) :
    ((findEach Server.wire extent l (front ++ n :: back)).run s).1 = .error d := by
  -- the answers to a find and to those after it, put together when all are in
  let joined (found : Except DriverError (List Nat)) (others : Except DriverError (List (List Nat))) :
      Except DriverError (List (List Nat)) := do return (← found) :: (← others)
  have next (a : Nat) (rest : List Nat) (s : Server) : (findEach Server.wire extent l (a :: rest)).run s =
      (joined ((find Server.wire extent l a).run.run s).1
          ((findEach Server.wire extent l rest).run ((find Server.wire extent l a).run.run s).2).1,
        ((findEach Server.wire extent l rest).run ((find Server.wire extent l a).run.run s).2).2) := rfl
  induction front generalizing s founds with
  | nil =>
    obtain rfl : s = between := congrArg Prod.snd before
    rw [List.nil_append, next, fails]
    rfl
  | cons a rest ih =>
    rw [next] at before
    obtain ⟨combined, rfl⟩ := Prod.mk.inj before
    rw [List.cons_append, next]
    cases found : ((find Server.wire extent l a).run.run s).1 with
    | error e =>
      rw [found] at combined
      cases combined
    | ok nodes =>
      rw [found] at combined
      cases others : ((findEach Server.wire extent l rest).run ((find Server.wire extent l a).run.run s).2).1 with
      | error e =>
        rw [others] at combined
        cases combined
      | ok answers =>
        have stops := ih (Prod.ext others rfl)
        rw [stops]
        rfl

theorem findTogetherFails {front back : List Nat} {founds : List (List Nat)} (known : supported l = .ok (u, value))
    (before : (findTogether Server.wire extent front l).run.run s = (.ok founds, between))
    (fails : (between.receive (.find extent n u value)).1 = .error e) :
    ((findTogether Server.wire extent (front ++ n :: back) l).run.run s).1 = .error (findError l e) := by
  have each (as : List Nat) : findTogether Server.wire extent as l = findEach Server.wire extent l as := by
    unfold findTogether
    rw [known]
  rw [each] at before ⊢
  exact findEachFails before (findFails known fails)

end Sending

section Scripts

variable {source : String} {mark : Tag.Mark} {rounds : List Round} {round : Round} {e : CommandError}

theorem readsTold {nodes : List Nat} {out : Except DriverError (List (Nat × Nat))}
    (reads : TagReads mark nodes rounds out) (inside : round ∈ rounds) (failed : round.answer = .error e) :
    (∃ n, round.command = .readTag n) ∧ out = .error (elementError e) := by
  induction reads with
  | done => cases inside
  | fails n rest other =>
    cases List.mem_singleton.mp inside
    cases failed
    exact ⟨⟨n, rfl⟩, rfl⟩
  | read n value others ih =>
    rcases List.mem_cons.mp inside with rfl | inside
    · cases failed
    · obtain ⟨told, rfl⟩ := ih inside
      exact ⟨told, rfl⟩

theorem searchTold {out : Except DriverError (List Nat)} (search : Search mark rounds out) (inside : round ∈ rounds)
    (failed : round.answer = .error e) :
    round.command = .findTagged mark ∧ out = .error (findError (.find .css (Tag.selector (Tag.markText mark))) e) ∨
      (∃ n, round.command = .readTag n) ∧ out = .error (elementError e) := by
  cases search with
  | fails other =>
    cases List.mem_singleton.mp inside
    cases failed
    exact .inl ⟨rfl, rfl⟩
  | finds reads =>
    rcases List.mem_cons.mp inside with rfl | inside
    · cases failed
    · obtain ⟨told, rfl⟩ := readsTold reads inside failed
      exact .inr ⟨told, rfl⟩

theorem conductTold {out : Except DriverError (Scope Nat)} (conduct : Conduct source mark rounds out)
    (inside : round ∈ rounds) (looks : round.command = .findTagged mark ∨ ∃ n, round.command = .readTag n)
    (failed : round.answer = .error e) :
    round.command = .findTagged mark ∧ out = .error (findError (.find .css (Tag.selector (Tag.markText mark))) e) ∨
      (∃ n, round.command = .readTag n) ∧ out = .error (elementError e) := by
  -- the first and the last round of a call have other commands than its search
  have within {first last : Except CommandError (Reply Nat)} {search : List Round}
      (here : round ∈ ⟨.tag source mark, first⟩ :: search ++ [⟨.untag mark, last⟩]) : round ∈ search := by
    rw [List.cons_append, List.mem_cons, List.mem_append, List.mem_singleton] at here
    rcases here with rfl | here | rfl
    · rcases looks with same | ⟨n, same⟩ <;> cases same
    · exact here
    · rcases looks with same | ⟨n, same⟩ <;> cases same
  cases conduct with
  | untagged other =>
    cases List.mem_singleton.mp inside
    rcases looks with same | ⟨n, same⟩ <;> cases same
  | lost summary searched answer =>
    refine (searchTold searched (within inside) failed).imp (fun ⟨finds, told⟩ => ⟨finds, ?_⟩)
      fun ⟨reads, told⟩ => ⟨reads, ?_⟩
    · cases told
      rfl
    · cases told
      rfl
  | uncleaned summary searched other =>
    rcases searchTold searched (within inside) failed with ⟨_, told⟩ | ⟨_, told⟩ <;> cases told
  | answered summary searched reply =>
    rcases searchTold searched (within inside) failed with ⟨_, told⟩ | ⟨_, told⟩ <;> cases told

end Scripts

def FailsAs {β : Type} (out : Except DriverError β) (kind : DriverError → Prop) : Prop := ∃ d, out = .error d ∧ kind d

/- Whatever a server says of a failed command, the driver tells a missing element by the code. All other errors are told
by their messages, so they are told by their codes just when a message speaks of a stale element for that code alone. -/
theorem failuresTold (s : Server) (mark : Tag.Mark) (code message : String) :
    (∀ l u value, supported l = .ok (u, value) →
      ((s.receive (.findRoot u value)).1 = .error (.answered code message) →
        FailsAs (sentTo ((driver Server.wire).findRoot l) mark s).1 (FindTold l code message)) ∧
      (∀ extent n, (s.receive (.find extent n u value)).1 = .error (.answered code message) →
        FailsAs (sentTo ((driver Server.wire).find extent n l) mark s).1 (FindTold l code message)) ∧
      ∀ extent front n back founds between,
        sentTo ((driver Server.wire).findTogether extent front l) mark s = (.ok founds, between) →
        (between.receive (.find extent n u value)).1 = .error (.answered code message) →
        FailsAs (sentTo ((driver Server.wire).findTogether extent (front ++ n :: back) l) mark s).1
          (FindTold l code message)) ∧
    (∀ n, (s.receive (.text n)).1 = .error (.answered code message) →
      FailsAs (sentTo ((driver Server.wire).text n) mark s).1 (ElementTold code message)) ∧
    ∀ source, ∀ round ∈ rounds source mark s, round.answer = .error (.answered code message) →
      (round.command = .findTagged mark → FailsAs (sentTo ((driver Server.wire).runScript source) mark s).1
        (FindTold (.find .css (Tag.selector (Tag.markText mark))) code message)) ∧
      ∀ n, round.command = .readTag n →
        FailsAs (sentTo ((driver Server.wire).runScript source) mark s).1 (ElementTold code message) := by
  refine ⟨fun l u value known => ⟨fun fails => ?_, fun extent n fails => ?_,
    fun extent front n back founds between before fails => ?_⟩, fun n fails => ?_,
    fun source round inside failed => ?_⟩
  · exact ⟨_, findRootFails known fails, findTold l code message⟩
  · exact ⟨_, driverFindFails known fails, findTold l code message⟩
  · exact ⟨_, findTogetherFails known before fails, findTold l code message⟩
  · exact ⟨_, textFails fails, elementTold code message⟩
  · have conduct := aloneConduct source mark s
    refine ⟨fun finds => ?_, fun n reads => ?_⟩
    · rcases conductTold conduct inside (.inl finds) failed with ⟨_, told⟩ | ⟨⟨n, reads⟩, _⟩
      · exact ⟨_, told, findTold _ code message⟩
      · exact nomatch finds.symm.trans reads
    · rcases conductTold conduct inside (.inr ⟨n, reads⟩) failed with ⟨finds, _⟩ | ⟨_, told⟩
      · exact nomatch reads.symm.trans finds
      · exact ⟨_, told, elementTold code message⟩

def failingPage (code message : String) : Server where
  nodes := [.plain]
  scripts := []
  fails _ c := match c with
    | .find _ _ _ _ | .text _ => some ⟨.answered code message, false⟩
    | _ => none
  url := ""

theorem failuresToldQuoted :
    FailsAs (sentTo ((driver Server.wire).text 0) 0
      (failingPage "stale element reference" "stale element reference: node 0")).1 (ByCode "stale element reference") ∧
    FailsAs (sentTo ((driver Server.wire).find .all 0 (.find .css "p[")) 0
      (failingPage "invalid selector" "no stale element selector: p[")).1
        fun d => ¬ FindByCode (.find .css "p[") "invalid selector" d := by
  have usual : SpeaksStale "stale element reference: node 0" := partIff.mp (by decide)
  have quoted : SpeaksStale "no stale element selector: p[" := partIff.mp (by decide)
  constructor
  · obtain ⟨d, fails, told⟩ := (failuresTold
      (failingPage "stale element reference" "stale element reference: node 0") 0 _ _).2.1 0 rfl
    exact ⟨d, fails, told.byCode.mpr (iff_of_true usual rfl)⟩
  · obtain ⟨d, fails, told⟩ := ((failuresTold (failingPage "invalid selector" "no stale element selector: p[") 0 _ _).1
      (.find .css "p[") .css "p[" rfl).2.1 .all 0 rfl
    refine ⟨d, fails, fun byCode => ?_⟩
    rcases told.byCode.mp byCode with missing | stale
    · exact absurd missing (by decide)
    · exact absurd (stale.mp quoted) (by decide)

/- A selector that is quoted in a message makes an element stale, and a stale element is not known in other words. -/
theorem quotedStale :
    (sentTo ((driver Server.wire).findFirst 0 (.find .css "[title='stale element'")) 0
        (failingPage "invalid selector" "invalid selector: [title='stale element'")).1 =
      .error (.staleElement "webdriver returned error: invalid selector: [title='stale element'") ∧
    (sentTo ((driver Server.wire).text 0) 0 (failingPage "stale element reference" "the node is gone")).1 =
      .error (.other "webdriver returned error: the node is gone") := by
  exact ⟨by rfl, by rfl⟩

end Client

end LocatorPath
