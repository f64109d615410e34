import LocatorPath.Proofs.Path.Grammar
import LocatorPath.Proofs.Path.Pieces

/-! Steps that were made by hand, written and read again. The conditions under which this changes
nothing are collected in `Settled`, which every step that was read satisfies too, and `Slips`, which
says when the separator before an alias moves. -/
namespace LocatorPath
open Unicode (isDecimalDigit isBlank trim Blank Trimmed)

namespace TextFilter

def kind : TextFilter → FilterKind
  | contains _ => .contains
  | equals _ => .equals
  | pattern _ => .pattern

def value : TextFilter → List Char
  | contains text => text.toList
  | equals text => text.toList
  | pattern p => p.source.toList

end TextFilter

def HasFilter (cs : List Char) : Prop := ∃ kind value target, FilterShape cs kind value target

structure Settled (s : Step) : Prop where
  name : ∀ n m, s = ⟨.named n, m⟩ → n ≠ "" ∧ trim n.toList = n.toList ∧ n ≠ "this"
  unbroken : Unbroken s.written
  line : ∀ n m, s = ⟨.named n, some m⟩ → '\n' ∉ n.toList
  value : ∀ t f c, s = ⟨t, some (.text f c)⟩ → f.value ≠ [] ∧ '\n' ∉ f.value
  cut : ∀ n f c, s = ⟨.named n, some (.text f c)⟩ → ¬ f.kind.closing <:+: n.toList
  noIndex : ∀ t v c, s = ⟨t, some (.text (.contains v) c)⟩ →
    ¬ HasIndex ((TextFilter.contains v).written ++ chars " in " ++ t.written)
  plain : ∀ n, s = ⟨.named n, none⟩ →
    ¬ HasSigil n.toList ∧ ¬ AfterAll HasIndex n.toList ∧ ¬ AfterAll HasFilter n.toList

/-- The alias starts where ` in ` would end if it began one character earlier. -/
def Slips (s : Step) : Prop :=
  ∃ n f c, s = ⟨.named n, some (.text f c)⟩ ∧ f.kind ≠ .pattern ∧ chars "in " <+: n.toList

def IndexSpec.digits : IndexSpec → WrittenIndex
  | exact .first => .first
  | exact .last => .last
  | exact (.nth n) => .nth (decimal n.toNat)
  | between low high => .between (decimal low.toNat) (decimal high.toNat)
  | above n => .above (decimal n.toNat)
  | below n => .below (decimal n.toNat)

theorem digitIsDecimal {c : Char} (digit : c.isDigit = true) : isDecimalDigit c = true := by
  simp only [Char.isDigit, Bool.and_eq_true, decide_eq_true_eq] at digit
  refine List.any_eq_true.mpr ⟨0x30, by simp [Unicode.digitZeros], ?_⟩
  have low : 48 ≤ c.toNat := digit.1
  have high : c.toNat ≤ 57 := digit.2
  simp only [Bool.and_eq_true, decide_eq_true_eq]
  omega

theorem decimalRun (n : UInt64) : DigitRun (decimal n.toNat) :=
  ⟨Nat.toDigits_ne_nil, fun c inside => digitIsDecimal ((decimalText n).plain c inside)⟩

theorem indexWritten (spec : IndexSpec) :
    ∃ token, IndexText spec.digits token ∧ spec.written = '#' :: token := by
  cases spec with
  | exact p =>
    cases p with
    | first => exact ⟨_, .first, rfl⟩
    | last => exact ⟨_, .last, rfl⟩
    | nth n => exact ⟨_, .nth (decimalRun n), rfl⟩
  | between low high => exact ⟨_, .between (decimalRun low) (decimalRun high), rfl⟩
  | above n => exact ⟨_, .above (decimalRun n), rfl⟩
  | below n => exact ⟨_, .below (decimalRun n), rfl⟩

theorem indexValue (spec : IndexSpec) : IndexValue spec.digits spec := by
  cases spec with
  | exact p =>
    cases p with
    | first => exact .first
    | last => exact .last
    | nth n => exact .nth (decimalText n)
  | between low high => exact .between (decimalText low) (decimalText high)
  | above n => exact .above (decimalText n)
  | below n => exact .below (decimalText n)

theorem filterWritten (f : TextFilter) (target : List Char) :
    f.written ++ chars " in " ++ target =
      f.kind.opening :: (f.value ++ f.kind.closing ++ target) := by
  cases f <;> simp [TextFilter.written, TextFilter.kind, TextFilter.value, FilterKind.opening,
    FilterKind.closing, chars]

theorem filterStepWritten (t : Target) (f : TextFilter) (c : Cardinality) :
    (Step.mk t (some (.text f c))).written =
      c.written ++ f.kind.opening :: (f.value ++ f.kind.closing ++ t.written) := by
  rw [← filterWritten]
  simp [Step.written]

theorem filterValue (f : TextFilter) : FilterText f.kind f.value f := by
  cases f with
  | contains text =>
    have read := FilterText.contains text.toList
    rwa [String.ofList_toList] at read
  | equals text =>
    have read := FilterText.equals text.toList
    rwa [String.ofList_toList] at read
  | pattern p => exact .pattern (String.ofList_toList).symm

theorem targetTrimmed {t : Target}
    (name : ∀ n, t = .named n → n ≠ "" ∧ trim n.toList = n.toList ∧ n ≠ "this") :
    t.written ≠ [] ∧ Trimmed t.written ∧ TargetText t.written t := by
  cases t with
  | this =>
    have same : trim (chars "this") = chars "this" := by decide
    exact ⟨by decide, Unicode.trimSelf.mp same, .this same⟩
  | named n =>
    obtain ⟨nonempty, same, other⟩ := name n rfl
    have some : n.toList ≠ [] := by simpa using nonempty
    have plain : n.toList ≠ chars "this" := fun same => other (String.toList_inj.mp same)
    have text := TargetText.named (by rw [same]; exact some) (by rw [same]; exact plain)
    rw [same, String.ofList_toList] at text
    exact ⟨some, Unicode.trimSelf.mp same, text⟩

/- The four characters of ` in ` overlap themselves in one way only, by the space at its end, and
the five of `/ in ` in none. -/
theorem overlap {kind : FilterKind} {target x after : List Char} (later : x ≠ [])
    (same : kind.closing ++ target = x ++ (kind.closing ++ after)) :
    kind.closing <:+: target ∨ (kind ≠ .pattern ∧ chars "in " <+: target) := by
  have spaced (same : chars " in " ++ target = x ++ (chars " in " ++ after)) :
      chars " in " <:+: target ∨ chars "in " <+: target := by
    match x with
    | [] => contradiction
    | [_] => simp [chars] at same
    | [_, _] => simp [chars] at same
    | [_, _, _] =>
      simp only [chars, String.reduceToList, List.cons_append, List.nil_append, List.cons.injEq] at same
      exact Or.inr ⟨after, by rw [same.2.2.2.2]; rfl⟩
    | _ :: _ :: _ :: _ :: y =>
      simp only [chars, String.reduceToList, List.cons_append, List.nil_append, List.cons.injEq] at same
      exact Or.inl ⟨y, after, by rw [same.2.2.2.2]; simp [chars]⟩
  cases kind with
  | contains => exact (spaced same).imp id fun start => ⟨by simp, start⟩
  | equals => exact (spaced same).imp id fun start => ⟨by simp, start⟩
  | pattern =>
    match x with
    | [] => contradiction
    | [_] | [_, _] | [_, _, _] | [_, _, _, _] => simp [FilterKind.closing, chars] at same
    | _ :: _ :: _ :: _ :: _ :: y =>
      simp only [FilterKind.closing, chars, String.reduceToList, List.cons_append, List.nil_append,
        List.cons.injEq] at same
      exact Or.inl ⟨y, after, by rw [same.2.2.2.2.2]; simp [FilterKind.closing, chars]⟩

theorem lastCutWritten {kind : FilterKind} {value target : List Char} (front : value ≠ [])
    (back : target ≠ []) (free : ¬ kind.closing <:+: target)
    (steady : kind ≠ .pattern → ¬ chars "in " <+: target) :
    LastCut kind.closing (value ++ kind.closing ++ target) value target := by
  refine ⟨⟨rfl, front, back⟩, fun b a cut => ?_⟩
  have same := cut.text
  rw [List.append_assoc, List.append_assoc] at same
  rcases List.append_eq_append_iff.mp same with ⟨x, rfl, rest⟩ | ⟨x, rfl, _⟩
  · by_cases later : x = []
    · simp [later]
    · rcases overlap later rest with inside | ⟨other, start⟩
      · exact absurd inside free
      · exact absurd start (steady other)
  · simp

theorem openingNoIndex {kind : FilterKind} {body : List Char} (other : kind ≠ .contains) :
    ¬ HasIndex (kind.opening :: body) := by
  rintro ⟨index, target, shape⟩
  obtain ⟨rest, same⟩ := shape.start
  cases kind <;> simp_all [FilterKind.opening]

theorem bodyNoIndex {c : Cardinality} {kind : FilterKind} {body : List Char}
    (free : ¬ HasIndex (kind.opening :: body)) :
    ¬ HasIndex (c.written ++ kind.opening :: body) ∧
      ¬ AfterAll HasIndex (c.written ++ kind.opening :: body) := by
  cases c with
  | first =>
    have start : HasSigil (kind.opening :: body) :=
      ⟨_, _, rfl, by cases kind <;> simp [FilterKind.opening]⟩
    exact ⟨free, start.noAllIndex⟩
  | all =>
    constructor
    · rintro ⟨index, target, shape⟩
      obtain ⟨rest, same⟩ := shape.start
      simp [Cardinality.written, chars] at same
    · rintro ⟨rest, same, shape⟩
      rw [← List.append_cancel_left same] at shape
      exact free shape

structure FilterWritten (t : Target) (f : TextFilter) (c : Cardinality) : Prop where
  text : (Step.mk t (some (.text f c))).written =
    c.written ++ f.kind.opening :: (f.value ++ f.kind.closing ++ t.written)
  line : '\n' ∉ (Step.mk t (some (.text f c))).written
  noIndex : ¬ HasIndex (Step.mk t (some (.text f c))).written
  noAllIndex : ¬ AfterAll HasIndex (Step.mk t (some (.text f c))).written

theorem Settled.targetLine {t : Target} {m : Modifier} (settled : Settled ⟨t, some m⟩) :
    '\n' ∉ t.written := by
  cases t with
  | this => decide
  | named n => exact settled.line n m rfl

theorem wordsLine (c : Cardinality) (kind : FilterKind) :
    '\n' ∉ c.written ∧ '\n' ≠ kind.opening ∧ '\n' ∉ kind.closing := by
  cases c <;> cases kind <;> decide

theorem closingThis (kind : FilterKind) : ¬ kind.closing <:+: chars "this" := by
  cases kind <;> decide

theorem Settled.filter {t : Target} {f : TextFilter} {c : Cardinality}
    (settled : Settled ⟨t, some (.text f c)⟩) : FilterWritten t f c := by
  have text := filterStepWritten t f c
  have free : ¬ HasIndex (f.kind.opening :: (f.value ++ f.kind.closing ++ t.written)) := by
    cases f with
    | contains v =>
      rw [← filterWritten]
      exact settled.noIndex t v c rfl
    | equals v => exact openingNoIndex (by simp [TextFilter.kind])
    | pattern p => exact openingNoIndex (by simp [TextFilter.kind])
  obtain ⟨all, opening, closing⟩ := wordsLine c f.kind
  have value := (settled.value t f c rfl).2
  have target := settled.targetLine
  refine ⟨text, ?_, text ▸ (bodyNoIndex free).1, text ▸ (bodyNoIndex free).2⟩
  rw [text]
  simp [all, opening, closing, value, target]

theorem Settled.target {t : Target} {m : Option Modifier} (settled : Settled ⟨t, m⟩) :
    t.written ≠ [] ∧ Trimmed t.written ∧ TargetText t.written t :=
  targetTrimmed fun n same => settled.name n m (by rw [same])

theorem writtenReads {s : Step} (settled : Settled s) (steady : ¬ Slips s) :
    SegmentReads s.written (.ok s) := by
  obtain ⟨t, m⟩ := s
  obtain ⟨nonempty, _, targetText⟩ := settled.target
  match m with
  | none =>
    cases t with
    | this => exact .this
    | named n =>
      obtain ⟨start, noAllIndex, noFilter⟩ := settled.plain n rfl
      have other : n.toList ≠ chars "this" := fun same =>
        (settled.name n none rfl).2.2 (String.toList_inj.mp same)
      have noText : ¬ HasText n.toList := by
        rintro ⟨c, kind, value, target, ⟨body, text, cut⟩, line⟩
        cases c with
        | first =>
          exact start ⟨_, _, text, by cases kind <;> simp [FilterKind.opening]⟩
        | all =>
          refine noFilter ⟨_, text, kind, value, target, ⟨body, rfl, cut.toCut⟩, fun inside => ?_⟩
          exact line (text ▸ List.mem_append_right _ inside)
      have read := SegmentReads.named nonempty other start noAllIndex noText
      rwa [Target.written, String.ofList_toList] at read
  | some (.index spec) =>
    obtain ⟨token, text, written⟩ := indexWritten spec
    have shape : IndexShape (Step.mk t (some (.index spec))).written spec.digits t.written :=
      ⟨⟨token, text, by
        change spec.written ++ chars " of " ++ t.written = _
        rw [written]
        rfl⟩, nonempty, settled.targetLine⟩
    exact .index shape (indexValue spec) targetText
  | some (.text f c) =>
    have filter := settled.filter
    have front := (settled.value t f c rfl).1
    -- no separator stands further to the right: inside the alias by `settled`, across its start by `steady`
    have cut : LastCut f.kind.closing (f.value ++ f.kind.closing ++ t.written) f.value t.written := by
      cases t with
      | this =>
        exact lastCutWritten front nonempty (closingThis f.kind) fun _ => by decide
      | named n =>
        exact lastCutWritten front nonempty (settled.cut n f c rfl)
          fun other start => steady ⟨n, f, c, rfl, other, start⟩
    exact .text filter.noIndex filter.noAllIndex ⟨⟨_, filter.text, cut⟩, filter.line⟩
      (filterValue f) targetText

theorem Settled.alone {s : Step} (settled : Settled s) : Standalone s.written := by
  obtain ⟨t, m⟩ := s
  obtain ⟨nonempty, trimmed, _⟩ := settled.target
  have after (c : Char) (middle : List Char) (plain : isBlank c = false) :
      c :: (middle ++ t.written) ≠ [] ∧ Trimmed (c :: (middle ++ t.written)) :=
    ⟨by simp, Unicode.trimmedBetween plain nonempty trimmed⟩
  have ends : (Step.mk t m).written ≠ [] ∧ Trimmed (Step.mk t m).written := by
    match m with
    | none => exact ⟨nonempty, trimmed⟩
    | some (.index spec) =>
      obtain ⟨token, _, written⟩ := indexWritten spec
      have shape : (Step.mk t (some (.index spec))).written =
          '#' :: ((token ++ chars " of ") ++ t.written) := by
        change spec.written ++ chars " of " ++ t.written = _
        rw [written]
        rfl
      rw [shape]
      exact after '#' _ (by decide)
    | some (.text f c) =>
      rw [settled.filter.text]
      cases c with
      | first => exact after f.kind.opening _ (by cases f.kind <;> decide)
      | all =>
        have shape : Cardinality.all.written ++
            f.kind.opening :: (f.value ++ f.kind.closing ++ t.written) =
            'a' :: ((chars "ll " ++ f.kind.opening :: (f.value ++ f.kind.closing)) ++ t.written) := by
          simp [Cardinality.written, chars]
        rw [shape]
        exact after 'a' _ (by decide)
  exact ⟨ends.1, ends.2, settled.unbroken⟩

theorem renderReads {s : Step} (settled : Settled s) (steady : ¬ Slips s) :
    parseSegment s.render = .ok s := parseSegmentComplete (writtenReads settled steady)

theorem parseWrittenSteps {steps : List Step} (nonempty : steps ≠ [])
    (settled : ∀ s ∈ steps, Settled s ∧ ¬ Slips s) : parse (renderPath steps) = .ok steps := by
  rw [parseRendered nonempty fun s inside => (settled s inside).1.alone]
  exact List.forall₂_same.mpr fun s inside => renderReads (settled s inside).1 (settled s inside).2

theorem parseWrittenStepsTwo :
    (∀ s ∈ [Step.mk (.named "rows") (some (.index (.above 3))),
        ⟨.named "links", some (.text (.contains "Sign in") .all)⟩], Settled s ∧ ¬ Slips s) ∧
      parse "#>3 of rows > all #Sign in in links" =
        .ok [⟨.named "rows", some (.index (.above 3))⟩,
          ⟨.named "links", some (.text (.contains "Sign in") .all)⟩] := by
  have settled : ∀ s ∈ [Step.mk (.named "rows") (some (.index (.above 3))),
      ⟨.named "links", some (.text (.contains "Sign in") .all)⟩], Settled s ∧ ¬ Slips s := by
    intro s inside
    rcases List.mem_pair.mp inside with rfl | rfl
    · refine ⟨⟨?_, unbrokenIffPieces.mpr (by decide), ?_, ?_, ?_, ?_, ?_⟩, ?_⟩
      · intro n m same; cases same; decide
      · intro n m same; cases same; decide
      · intro t f c same; cases same
      · intro n f c same; cases same
      · intro t v c same; cases same
      · intro n same; cases same
      · rintro ⟨n, f, c, same, _⟩; cases same
    · refine ⟨⟨?_, unbrokenIffPieces.mpr (by decide), ?_, ?_, ?_, ?_, ?_⟩, ?_⟩
      · intro n m same; cases same; decide
      · intro n m same; cases same; decide
      · intro t f c same; cases same; decide
      · intro n f c same; cases same; decide
      · intro t v c same; cases same; exact mt hasIndexIff.mp (by decide)
      · intro n same; cases same
      · rintro ⟨n, f, c, same, _, start⟩; cases same; revert start; decide
  have text : renderPath [⟨.named "rows", some (.index (.above 3))⟩,
      ⟨.named "links", some (.text (.contains "Sign in") .all)⟩] =
      "#>3 of rows > all #Sign in in links" := by decide +kernel
  refine ⟨settled, ?_⟩
  rw [← text]
  exact parseWrittenSteps (by simp) settled

end LocatorPath
