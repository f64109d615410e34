import LocatorPath.Proofs.WebDriver.Marked

/-! Scripts run one after the other in one session, where any command may fail and leave tags behind. A
call that gets through returns what its own script returned, as no tag on the page has its mark. -/
namespace LocatorPath

structure ScriptCall where
  source : String
  entry : ScriptEntry

def Server.answering (s : Server) (call : ScriptCall) : Server :=
  {s with scripts := (call.source, call.entry) :: s.scripts}

namespace ScriptCall

def items (call : ScriptCall) : List (Option Nat) :=
  match call.entry.result with
  | .ok result => result.items
  | .error _ => []

abbrev Ending := ScriptCall × Except DriverError (Scope Nat)

def run : List ScriptCall → Tag.Mark → Server → List Ending × Server
  | [], _, s => ([], s)
  | call :: rest, mark, s =>
    let ((out, next), later) :=
      ((Client.runScript Server.wire call.source).run.run mark).run (s.answering call)
    let (endings, last) := run rest next later
    ((call, out) :: endings, last)

theorem lookupOwn (call : ScriptCall) (s : Server) :
    (s.answering call).scripts.lookup call.source = some call.entry := by
  simp [Server.answering]

theorem itemsOwn (call : ScriptCall) (s : Server) :
    (s.answering call).itemsOf call.source = call.items := by
  obtain ⟨source, result, summary⟩ := call
  rw [Server.itemsOf, lookupOwn]
  cases result <;> rfl

theorem step (call : ScriptCall) (rest : List ScriptCall) (mark : Tag.Mark) (s : Server) :
    ∃ out later, run (call :: rest) mark s =
        ((call, out) :: (run rest (mark + 1) later).1, (run rest (mark + 1) later).2) ∧
      Server.Touched mark call.items (s.answering call) later ∧
      ∀ result ns, Server.Answered call.source mark result ns (s.answering call) out later := by
  have finished (result : ScriptResult) (ns : List Nat) := Dialogue.Keeps.finish .refl .refl
    (fun _ _ _ => .trans) (Server.scriptKeeps call.source mark result ns (s.answering call))
  simp only [← Client.runScriptFinish, itemsOwn] at finished
  simp only [run]
  generalize ((Client.runScript Server.wire call.source).run.run mark).run (s.answering call) = ended
    at finished ⊢
  obtain ⟨⟨out, next⟩, later⟩ := ended
  obtain ⟨⟨rfl, _⟩, touched⟩ := finished .nothing []
  exact ⟨out, later, rfl, touched, fun result ns => (finished result ns).1.2⟩

def Unspent (mark : Tag.Mark) (count : Nat) (s : Server) : Prop :=
  ∀ i < count, s.Unused (mark + UInt64.ofNat i)

theorem markApart (mark : Tag.Mark) {i : Nat} (fits : i + 1 < UInt64.size) :
    mark ≠ mark + UInt64.ofNat (i + 1) := by
  intro same
  have values := congrArg UInt64.toNat same
  have small := mark.toNat_lt
  have size : UInt64.size = 2 ^ 64 := rfl
  rw [UInt64.toNat_add, UInt64.toNat_ofNat_of_lt' fits] at values
  omega

theorem markLater (mark : Tag.Mark) (i : Nat) :
    mark + 1 + UInt64.ofNat i = mark + UInt64.ofNat (i + 1) := by
  rw [UInt64.ofNat_add, UInt64.add_assoc, UInt64.add_comm 1]
  rfl

theorem Unspent.step {call : ScriptCall} {mark : Tag.Mark} {items : List (Option Nat)} {count : Nat}
    {s later : Server} (unspent : Unspent mark (count + 1) s) (short : count + 1 ≤ UInt64.size)
    (touched : Server.Touched mark items (s.answering call) later) : Unspent (mark + 1) count later := by
  intro i inside
  rw [markLater]
  have apart : mark ≠ mark + UInt64.ofNat (i + 1) :=
    markApart mark (Nat.lt_of_lt_of_le (Nat.add_lt_add_right inside 1) short)
  have spared : Server.Spared (mark + UInt64.ofNat (i + 1)) [] (s.answering call) later :=
    touched.spares apart fun _ none => absurd none List.not_mem_nil
  have unused : (s.answering call).Unused (mark + UInt64.ofNat (i + 1)) :=
    unspent (i + 1) (Nat.add_lt_add_right inside 1)
  exact unused.stable spared

theorem attachedAnswering (s : Server) (call : ScriptCall) :
    (s.answering call).isAttached = s.isAttached := rfl

theorem reliableAnswering (s : Server) (call : ScriptCall) :
    (s.answering call).Reliable ↔ s.Reliable :=
  ⟨fun ⟨reachable, succeeds, present⟩ => ⟨reachable, succeeds, present⟩,
    fun ⟨reachable, succeeds, present⟩ => ⟨reachable, succeeds, present⟩⟩

/-! ## Whole sessions -/

theorem runEvery (calls : List ScriptCall) (mark : Tag.Mark) (s : Server) :
    (run calls mark s).1.map Prod.fst = calls := by
  induction calls generalizing mark s with
  | nil => rfl
  | cons call rest others =>
    obtain ⟨out, later, ran, _⟩ := step call rest mark s
    rw [ran, List.map_cons, others]

theorem returnsLater {call : ScriptCall} {scope : Scope Nat} {s later : Server}
    (same : later.isAttached = s.isAttached)
    (returns : Server.Returns call.source scope (s.answering call)) :
    Server.Returns call.source scope (later.answering call) :=
  ⟨(lookupOwn call later).trans ((lookupOwn call s).symm.trans returns.entry), returns.distinct,
    fun n inside => (congrFun same n).trans (returns.attached n inside), returns.fits⟩

/- The marks of the calls to come are not on the page, and a call leaves it so for those after it. -/
theorem runFaithful (calls : List ScriptCall) {mark : Tag.Mark} {s : Server}
    (unspent : Unspent mark calls.length s) (short : calls.length ≤ UInt64.size) (honest : s.Honest)
    {call : ScriptCall} {out : Except DriverError (Scope Nat)} {scope : Scope Nat}
    (ended : (call, out) ∈ (run calls mark s).1)
    (returns : Server.Returns call.source scope (s.answering call)) :
    out = .ok scope ∨ ¬s.Reliable ∧ ∃ e, out = .error e := by
  induction calls generalizing mark s with
  | nil => cases ended
  | cons first rest others =>
    obtain ⟨answer, later, ran, touched, answered⟩ := step first rest mark s
    rw [ran] at ended
    rcases List.mem_cons.mp ended with here | after
    · cases here
      have unused : (s.answering call).Unused mark := by
        have next := unspent 0 (Nat.zero_lt_succ _)
        exact UInt64.add_zero mark ▸ next
      rw [← reliableAnswering s call]
      exact (answered _ _).returned returns honest unused
    · have alike := touched.alike
      have attached : later.isAttached = s.isAttached :=
        (Server.attachedAlike alike).trans (attachedAnswering s first)
      have reliable := (Server.reliableAlike alike).trans (reliableAnswering s first)
      rw [← reliable]
      exact others (unspent.step short touched) (Nat.le_of_succ_le short)
        ((Server.honestAlike alike).mpr honest) after (returnsLater attached returns)

/-- A tag was left by one of the calls: it names the call and the place of the node in its result. On a
node of the document it stays only if the call failed. -/
def LeftBy (mark : Tag.Mark) (endings : List Ending) (page : Server) (n : Nat) (tag : Option String) :
    Prop :=
  ∃ i call out place, endings[i]? = some (call, out) ∧ call.items[place]? = some (some n) ∧
    tag = some (Tag.value (Tag.markText (mark + UInt64.ofNat i)) place) ∧
    (page.isAttached n = true → ∃ e, out = .error e)

theorem LeftBy.after {mark : Tag.Mark} {endings : List Ending} {page later : Server} {n : Nat}
    {tag : Option String} (left : LeftBy (mark + 1) endings later n tag)
    (attached : later.isAttached = page.isAttached) (first : Ending) :
    LeftBy mark (first :: endings) page n tag := by
  obtain ⟨i, call, out, place, here, inside, rfl, failed⟩ := left
  refine ⟨i + 1, call, out, place, here, inside, ?_, fun whether => failed ?_⟩
  · rw [markLater]
  · rwa [attached]

theorem runLeaves (calls : List ScriptCall) (mark : Tag.Mark) (s : Server) (n : Nat) :
    (run calls mark s).2.tagOf n = s.tagOf n ∨ (run calls mark s).2.tagOf n = none ∨
      LeftBy mark (run calls mark s).1 s n ((run calls mark s).2.tagOf n) := by
  induction calls generalizing mark s with
  | nil => exact .inl rfl
  | cons first rest others =>
    obtain ⟨out, later, ran, touched, answered⟩ := step first rest mark s
    have attached : later.isAttached = s.isAttached :=
      (Server.attachedAlike touched.alike).trans (attachedAnswering s first)
    rw [ran]
    rcases others (mark + 1) later with same | off | left
    · rw [same]
      rcases touched.tags n with kept | ⟨off, _⟩ | ⟨place, inside, put⟩
      · exact .inl kept
      · exact .inr (.inl off)
      · refine .inr (.inr ⟨0, first, out, place, rfl, inside, ?_, fun whether => ?_⟩)
        · rw [put]
          exact congrArg (fun m => some (Tag.value (Tag.markText m) place)) (UInt64.add_zero mark).symm
        · rcases (answered .nothing []).cleared with cleared | ⟨_, failed⟩
          · have clean := cleared n (by rw [attached]; exact whether)
            rw [put, Tag.ownTagged] at clean
            cases clean
          · exact failed
    · exact .inr (.inl off)
    · exact .inr (.inr (left.after attached (first, out)))

theorem scriptsKeepApart (calls : List ScriptCall) (mark : Tag.Mark) (page : Server)
    (untagged : ∀ n, page.tagOf n = none) (honest : page.Honest) (short : calls.length ≤ UInt64.size) :
    (run calls mark page).1.map Prod.fst = calls ∧
      (∀ call out scope, (call, out) ∈ (run calls mark page).1 →
        Server.Returns call.source scope (page.answering call) →
        out = .ok scope ∨ ¬page.Reliable ∧ ∃ e, out = .error e) ∧
      ∀ n, (run calls mark page).2.tagOf n = none ∨
        LeftBy mark (run calls mark page).1 page n ((run calls mark page).2.tagOf n) := by
  have unspent : Unspent mark calls.length page := fun i _ n => by rw [untagged n]; rfl
  refine ⟨runEvery calls mark page, fun call out scope ended returns => ?_, fun n => ?_⟩
  · exact runFaithful calls unspent short honest ended returns
  · rcases runLeaves calls mark page n with same | left
    · exact .inl (same.trans (untagged n))
    · exact left

def shakyPage : Server where
  nodes := [.plain, .plain, .plain]
  scripts := []
  fails count _ := if count = 4 then some ⟨.unexpected, false⟩ else none
  url := ""

def shakyCalls : List ScriptCall :=
  [⟨"first", ⟨.ok (.list [some 2, some 0]), none⟩⟩,
    ⟨"second", ⟨.ok (.single (some 2)), none⟩⟩]

theorem scriptsKeepApartShaky :
    (run shakyCalls 0 shakyPage).1.map Prod.snd =
        [.error (.script CommandError.unexpected.message), .ok (.one 2)] ∧
      LeftBy 0 (run shakyCalls 0 shakyPage).1 shakyPage 0 (some "0-1") := by
  have untagged (n : Nat) : shakyPage.tagOf n = none := by
    rcases n with _ | _ | _ | n <;> rfl
  have honest : shakyPage.Honest := by simp [Server.Honest, shakyPage, ServerNode.plain]
  obtain ⟨every, faithful, left⟩ := scriptsKeepApart shakyCalls 0 shakyPage untagged honest (by decide)
  have tag : (run shakyCalls 0 shakyPage).2.tagOf 0 = some "0-1" := by decide +kernel
  have failed : (run shakyCalls 0 shakyPage).1.head?.map Prod.snd =
      some (.error (.script CommandError.unexpected.message)) := by decide +kernel
  have through : (run shakyCalls 0 shakyPage).1.getLast?.map (fun ending => ending.2.isOk) = some true := by
    decide +kernel
  constructor
  · obtain ⟨first, ⟨second, out⟩, ran⟩ : ∃ first second, (run shakyCalls 0 shakyPage).1 = [first, second] :=
      List.length_eq_two.mp (by rw [← List.length_map Prod.fst, every]; rfl)
    rw [ran] at every failed through ⊢
    simp only [List.map_cons, shakyCalls, List.cons.injEq] at every
    obtain ⟨_, rfl, _⟩ := every
    have returns : Server.Returns "second" (.one 2)
        (shakyPage.answering ⟨"second", ⟨.ok (.single (some 2)), none⟩⟩) :=
      ⟨rfl, by decide, by decide, by decide⟩
    have answered : out = .ok (.one 2) := by
      refine (faithful _ out _ (ran ▸ List.mem_cons_of_mem _ List.mem_cons_self) returns).resolve_right ?_
      rintro ⟨_, e, rfl⟩
      cases through
    simp only [List.head?_cons, Option.map_some, Option.some.injEq] at failed
    simp [failed, answered]
  · rcases left 0 with none | left
    · rw [tag] at none
      cases none
    · rwa [tag] at left

end ScriptCall

end LocatorPath
