import LocatorPath.Proofs.Path.FilterShape
import LocatorPath.Proofs.Path.IndexShape
import LocatorPath.Proofs.Path.Number

/-! The grammar of one segment, with one rule for each way that a segment can be read or refused.
The rules are told apart by shapes alone, and the reader answers exactly what they say. -/
namespace LocatorPath
open Unicode (trim)

inductive IndexValue : WrittenIndex → IndexSpec → Prop where
  | first : IndexValue .first (.exact .first)
  | last : IndexValue .last (.exact .last)
  | nth {digits n} (text : NumberText digits n) : IndexValue (.nth digits) (.exact (.nth n))
  | between {low high m n} (lowText : NumberText low m) (highText : NumberText high n) :
      IndexValue (.between low high) (.between m n)
  | above {digits n} (text : NumberText digits n) : IndexValue (.above digits) (.above n)
  | below {digits n} (text : NumberText digits n) : IndexValue (.below digits) (.below n)

/- Of two numbers the left one is judged first. -/
inductive IndexFault : WrittenIndex → List Char → NumberError → Prop where
  | nth {digits e} (fault : NumberFault digits e) : IndexFault (.nth digits) digits e
  | low {low high e} (fault : NumberFault low e) : IndexFault (.between low high) low e
  | high {low high m e} (text : NumberText low m) (fault : NumberFault high e) :
      IndexFault (.between low high) high e
  | above {digits e} (fault : NumberFault digits e) : IndexFault (.above digits) digits e
  | below {digits e} (fault : NumberFault digits e) : IndexFault (.below digits) digits e

inductive TargetText : List Char → Target → Prop where
  | this {cs} (same : trim cs = chars "this") : TargetText cs .this
  | named {cs} (nonempty : trim cs ≠ []) (other : trim cs ≠ chars "this") :
      TargetText cs (.named (String.ofList (trim cs)))

inductive FilterText : FilterKind → List Char → TextFilter → Prop where
  | contains (value) : FilterText .contains value (.contains (String.ofList value))
  | equals (value) : FilterText .equals value (.equals (String.ofList value))
  | pattern {value} {p : Pattern} (source : p.source = String.ofList value) :
      FilterText .pattern value (.pattern p)

def HasIndex (cs : List Char) : Prop := ∃ index target, IndexShape cs index target

def HasText (cs : List Char) : Prop :=
  ∃ cardinality kind value target, TextShape cs cardinality kind value target

def AfterAll (shape : List Char → Prop) (cs : List Char) : Prop :=
  ∃ rest, cs = chars "all " ++ rest ∧ shape rest

def HasSigil (cs : List Char) : Prop := ∃ c rest, cs = c :: rest ∧ (c = '#' ∨ c = '@' ∨ c = '/')

inductive SegmentReads : List Char → Except ParseError Step → Prop where
  | empty : SegmentReads [] (.error (.malformed "" .emptySegment))
  | this : SegmentReads (chars "this") (.ok .this)
  | index {cs index target spec t} (shape : IndexShape cs index target)
      (value : IndexValue index spec) (targetText : TargetText target t) :
      SegmentReads cs (.ok ⟨t, some (.index spec)⟩)
  | badNumber {cs index target digits e} (shape : IndexShape cs index target)
      (fault : IndexFault index digits e) :
      SegmentReads cs (.error (.malformed (String.ofList cs) (.badIndex (String.ofList digits) e)))
  | indexAlone {cs index target spec} (shape : IndexShape cs index target)
      (value : IndexValue index spec) (blank : trim target = []) :
      SegmentReads cs (.error (.malformed (String.ofList cs) (.missingAlias (String.ofList cs))))
  | allIndex {cs} (shape : AfterAll HasIndex cs) :
      SegmentReads cs (.error (.allWithIndex (String.ofList cs)))
  | text {cs cardinality kind value target filter t}
      (noIndex : ¬ HasIndex cs) (noAllIndex : ¬ AfterAll HasIndex cs)
      (shape : TextShape cs cardinality kind value target)
      (filterText : FilterText kind value filter) (targetText : TargetText target t) :
      SegmentReads cs (.ok ⟨t, some (.text filter cardinality)⟩)
  | badPattern {cs cardinality value target e}
      (noIndex : ¬ HasIndex cs) (noAllIndex : ¬ AfterAll HasIndex cs)
      (shape : TextShape cs cardinality .pattern value target)
      (bad : Regex.parse value = .error e) :
      SegmentReads cs (.error (.invalidRegex (String.ofList value) e))
  | textAlone {cs cardinality kind value target filter}
      (noIndex : ¬ HasIndex cs) (noAllIndex : ¬ AfterAll HasIndex cs)
      (shape : TextShape cs cardinality kind value target)
      (filterText : FilterText kind value filter) (blank : trim target = []) :
      SegmentReads cs (.error (.malformed (String.ofList cs) (.missingAlias (String.ofList cs))))
  | sigil {cs} (noIndex : ¬ HasIndex cs) (noText : ¬ HasText cs) (start : HasSigil cs) :
      SegmentReads cs (.error (.malformed (String.ofList cs) (.badModifier (String.ofList cs))))
  | named {cs} (nonempty : cs ≠ []) (other : cs ≠ chars "this") (start : ¬ HasSigil cs)
      (noAllIndex : ¬ AfterAll HasIndex cs) (noText : ¬ HasText cs) :
      SegmentReads cs (.ok (.named (String.ofList cs)))

theorem numberOk {digits : List Char} {n : UInt64} (text : NumberText digits n) :
    WrittenIndex.number digits = .ok n := by
  rw [WrittenIndex.number, readNumberExact.mpr text]; rfl

theorem numberFails {digits : List Char} {e : NumberError} (fault : NumberFault digits e) :
    WrittenIndex.number digits = .error (.badIndex (String.ofList digits) e) := by
  rw [WrittenIndex.number, readNumberFault.mpr fault]; rfl

theorem specOk {index : WrittenIndex} {spec : IndexSpec} (value : IndexValue index spec) :
    index.spec = .ok spec := by
  cases value with
  | first => rfl
  | last => rfl
  | nth text => rw [WrittenIndex.spec, numberOk text]; rfl
  | between lowText highText => rw [WrittenIndex.spec, numberOk lowText, numberOk highText]; rfl
  | above text => rw [WrittenIndex.spec, numberOk text]; rfl
  | below text => rw [WrittenIndex.spec, numberOk text]; rfl

theorem specFails {index : WrittenIndex} {digits : List Char} {e : NumberError}
    (fault : IndexFault index digits e) :
    index.spec = .error (.badIndex (String.ofList digits) e) := by
  cases fault with
  | nth fault => rw [WrittenIndex.spec, numberFails fault]; rfl
  | low fault => rw [WrittenIndex.spec, numberFails fault]; rfl
  | high text fault => rw [WrittenIndex.spec, numberOk text, numberFails fault]; rfl
  | above fault => rw [WrittenIndex.spec, numberFails fault]; rfl
  | below fault => rw [WrittenIndex.spec, numberFails fault]; rfl

theorem indexCases (index : WrittenIndex) :
    (∃ spec, IndexValue index spec) ∨ ∃ digits e, IndexFault index digits e := by
  cases index with
  | first => exact Or.inl ⟨_, .first⟩
  | last => exact Or.inl ⟨_, .last⟩
  | nth digits =>
    rcases numberCases digits with ⟨_, text⟩ | ⟨_, fault⟩
    · exact Or.inl ⟨_, .nth text⟩
    · exact Or.inr ⟨_, _, .nth fault⟩
  | between low high =>
    rcases numberCases low with ⟨_, lowText⟩ | ⟨_, fault⟩
    · rcases numberCases high with ⟨_, highText⟩ | ⟨_, fault⟩
      · exact Or.inl ⟨_, .between lowText highText⟩
      · exact Or.inr ⟨_, _, .high lowText fault⟩
    · exact Or.inr ⟨_, _, .low fault⟩
  | above digits =>
    rcases numberCases digits with ⟨_, text⟩ | ⟨_, fault⟩
    · exact Or.inl ⟨_, .above text⟩
    · exact Or.inr ⟨_, _, .above fault⟩
  | below digits =>
    rcases numberCases digits with ⟨_, text⟩ | ⟨_, fault⟩
    · exact Or.inl ⟨_, .below text⟩
    · exact Or.inr ⟨_, _, .below fault⟩

theorem readTargetOk {segment : String} {cs : List Char} {t : Target} (text : TargetText cs t) :
    readTarget segment cs = .ok t := by
  unfold readTarget
  cases text with
  | this same => rw [same]; rfl
  | named nonempty other => simp [nonempty, other]

theorem readTargetFails {segment : String} {cs : List Char} (blank : trim cs = []) :
    readTarget segment cs = .error (.missingAlias segment) := by
  rw [readTarget, blank]; rfl

theorem targetCases (cs : List Char) : (∃ t, TargetText cs t) ∨ trim cs = [] := by
  by_cases blank : trim cs = []
  · exact Or.inr blank
  · by_cases same : trim cs = chars "this"
    · exact Or.inl ⟨_, .this same⟩
    · exact Or.inl ⟨_, .named blank same⟩

theorem readFilterOk {kind : FilterKind} {value : List Char} {f : TextFilter}
    (text : FilterText kind value f) : readFilter kind (String.ofList value) = .ok f := by
  cases text with
  | contains => rfl
  | equals => rfl
  | pattern source => rw [← source, readFilter, Pattern.readSource]

theorem patternFails {source : String} {e : Regex.SyntaxError}
    (bad : Regex.parse source.toList = .error e) : Pattern.read source = .error e := by
  unfold Pattern.read
  split
  · next good => rw [bad] at good; contradiction
  · next same => rw [bad] at same; cases same; rfl

theorem readFilterFails {value : List Char} {e : Regex.SyntaxError}
    (bad : Regex.parse value = .error e) :
    readFilter .pattern (String.ofList value) = .error (.invalidRegex (String.ofList value) e) := by
  rw [readFilter, patternFails (by rwa [String.toList_ofList])]

theorem filterCases (kind : FilterKind) (value : List Char) :
    (∃ f, FilterText kind value f) ∨ (kind = .pattern ∧ ∃ e, Regex.parse value = .error e) := by
  cases kind with
  | contains => exact Or.inl ⟨_, .contains value⟩
  | equals => exact Or.inl ⟨_, .equals value⟩
  | pattern =>
    cases read : Regex.parse value with
    | ok regex =>
      have parsed : Regex.parse (String.ofList value).toList = .ok regex := by
        rwa [String.toList_ofList]
      exact Or.inl ⟨.pattern ⟨String.ofList value, regex, parsed⟩, .pattern rfl⟩
    | error e => exact Or.inr ⟨rfl, e, rfl⟩

theorem IndexShape.start {cs target : List Char} {index : WrittenIndex}
    (shape : IndexShape cs index target) : ∃ rest, cs = '#' :: rest := by
  obtain ⟨token, _, text⟩ := shape.text
  exact ⟨_, text⟩

theorem TextShape.start {cs value target : List Char} {cardinality : Cardinality}
    {kind : FilterKind} (shape : TextShape cs cardinality kind value target) :
    HasSigil cs ∨ ∃ rest, cs = 'a' :: rest := by
  obtain ⟨body, rfl, _⟩ := shape.text
  cases cardinality with
  | first => exact Or.inl ⟨kind.opening, body, rfl, by cases kind <;> simp [FilterKind.opening]⟩
  | all => exact Or.inr ⟨_, rfl⟩

theorem hasIndexIff {cs : List Char} : HasIndex cs ↔ (indexForm? cs).isSome = true := by
  rw [Option.isSome_iff_exists]
  exact ⟨fun ⟨index, target, shape⟩ => ⟨(index, target), indexFormExact.mpr shape⟩,
    fun ⟨form, read⟩ => ⟨form.1, form.2, indexFormExact.mp read⟩⟩

theorem afterAllIndexIff {cs : List Char} :
    AfterAll HasIndex cs ↔ (((chars "all ").isPrefixOf? cs).bind indexForm?).isSome = true := by
  constructor
  · rintro ⟨rest, rfl, shape⟩
    rw [List.isPrefixOf?_eq_some_iff_append_eq.mpr rfl]
    exact hasIndexIff.mp shape
  · intro found
    obtain ⟨form, read⟩ := Option.isSome_iff_exists.mp found
    obtain ⟨rest, cut, read⟩ := Option.bind_eq_some_iff.mp read
    exact ⟨rest, (List.append_eq_of_isPrefixOf?_eq_some cut).symm,
      form.1, form.2, indexFormExact.mp read⟩

/- The two ways through the reader: with an index, and without one in front or after `all`. -/
theorem parseIndexed {cs target : List Char} {index : WrittenIndex}
    (shape : IndexShape cs index target) :
    parseSegment (String.ofList cs) = (do
      let spec ← index.spec
      let t ← readTarget (String.ofList cs) target
      return ⟨t, some (.index spec)⟩ : Except Malformation Step).mapError
        (.malformed (String.ofList cs)) := by
  have form := indexFormExact.mpr shape
  obtain ⟨rest, rfl⟩ := shape.start
  simp [parseSegment, chars, form]

theorem parseFiltered {cs value target : List Char} {cardinality : Cardinality} {kind : FilterKind}
    (noIndex : ¬ HasIndex cs) (noAllIndex : ¬ AfterAll HasIndex cs)
    (shape : TextShape cs cardinality kind value target) :
    parseSegment (String.ofList cs) = (do
      let filter ← readFilter kind (String.ofList value)
      let target ← (readTarget (String.ofList cs) target).mapError (.malformed (String.ofList cs))
      return ⟨target, some (.text filter cardinality)⟩) := by
  have noForm := Option.not_isSome_iff_eq_none.mp (mt hasIndexIff.mpr noIndex)
  have nonempty : ¬ cs.isEmpty = true := by
    rcases shape.start with ⟨c, rest, rfl, _⟩ | ⟨rest, rfl⟩ <;> simp
  have other : ¬ (cs == chars "this") = true := by
    rcases shape.start with ⟨c, rest, rfl, rfl | rfl | rfl⟩ | ⟨rest, rfl⟩ <;> simp [chars]
  simp only [parseSegment, String.toList_ofList, noForm, textFormExact.mpr shape]
  rw [if_neg nonempty, if_neg other, if_neg (mt afterAllIndexIff.mpr noAllIndex)]

theorem parseUnfiltered {cs : List Char} (nonempty : cs ≠ []) (other : cs ≠ chars "this")
    (noIndex : ¬ HasIndex cs) (noAllIndex : ¬ AfterAll HasIndex cs) (noText : ¬ HasText cs) :
    (HasSigil cs → parseSegment (String.ofList cs) =
      .error (.malformed (String.ofList cs) (.badModifier (String.ofList cs)))) ∧
    (¬ HasSigil cs → parseSegment (String.ofList cs) = .ok (.named (String.ofList cs))) := by
  have noForm := Option.not_isSome_iff_eq_none.mp (mt hasIndexIff.mpr noIndex)
  have noFilter : textForm? cs = none :=
    textFormNone.mpr fun c k v t shape => noText ⟨c, k, v, t, shape⟩
  simp only [parseSegment, String.toList_ofList, noForm, noFilter]
  rw [if_neg (by simpa using nonempty), if_neg (by simpa using other),
    if_neg (mt afterAllIndexIff.mpr noAllIndex)]
  constructor
  · rintro ⟨c, rest, rfl, rfl | rfl | rfl⟩ <;> rfl
  · intro plain
    split
    · exact absurd ⟨_, _, rfl, Or.inl rfl⟩ plain
    · exact absurd ⟨_, _, rfl, Or.inr (Or.inl rfl)⟩ plain
    · exact absurd ⟨_, _, rfl, Or.inr (Or.inr rfl)⟩ plain
    · rfl

theorem HasSigil.noAllIndex {cs : List Char} (start : HasSigil cs) : ¬ AfterAll HasIndex cs := by
  rintro ⟨rest, rfl, _⟩
  obtain ⟨c, more, same, sigil⟩ := start
  rcases sigil with rfl | rfl | rfl <;> simp [chars] at same

theorem parseAllIndex {cs : List Char} (shape : AfterAll HasIndex cs) :
    parseSegment (String.ofList cs) = .error (.allWithIndex (String.ofList cs)) := by
  have found := afterAllIndexIff.mp shape
  obtain ⟨rest, rfl, _⟩ := shape
  have noForm : indexForm? (chars "all " ++ rest) = none := rfl
  simp only [parseSegment, String.toList_ofList, noForm, found]
  rw [if_neg (by simp [chars]), if_neg (by simp [chars]), if_pos trivial]

theorem parseSegmentComplete {cs : List Char} {r : Except ParseError Step}
    (reads : SegmentReads cs r) : parseSegment (String.ofList cs) = r := by
  cases reads with
  | empty => rfl
  | this => rfl
  | index shape value targetText =>
    rw [parseIndexed shape, specOk value]
    simp [readTargetOk targetText, bind, Except.bind, Except.mapError, pure, Except.pure]
  | badNumber shape fault => rw [parseIndexed shape, specFails fault]; rfl
  | indexAlone shape value blank =>
    rw [parseIndexed shape, specOk value]
    simp [readTargetFails blank, bind, Except.bind, Except.mapError]
  | allIndex shape => exact parseAllIndex shape
  | text noIndex noAllIndex shape filterText targetText =>
    rw [parseFiltered noIndex noAllIndex shape, readFilterOk filterText, readTargetOk targetText]
    rfl
  | badPattern noIndex noAllIndex shape bad =>
    rw [parseFiltered noIndex noAllIndex shape, readFilterFails bad]
    rfl
  | textAlone noIndex noAllIndex shape filterText blank =>
    rw [parseFiltered noIndex noAllIndex shape, readFilterOk filterText, readTargetFails blank]
    rfl
  | sigil noIndex noText start =>
    have nonempty : cs ≠ [] := by
      obtain ⟨c, rest, rfl, _⟩ := start
      simp
    have other : cs ≠ chars "this" := by
      obtain ⟨c, rest, rfl, rfl | rfl | rfl⟩ := start <;> simp [chars]
    exact (parseUnfiltered nonempty other noIndex start.noAllIndex noText).1 start
  | named nonempty other start noAllIndex noText =>
    have noIndex : ¬ HasIndex cs := by
      rintro ⟨index, target, shape⟩
      obtain ⟨rest, rfl⟩ := shape.start
      exact start ⟨_, _, rfl, Or.inl rfl⟩
    exact (parseUnfiltered nonempty other noIndex noAllIndex noText).2 start

theorem segmentTotal (cs : List Char) : ∃ r, SegmentReads cs r := by
  by_cases nonempty : cs = []
  · subst cs
    exact ⟨_, .empty⟩
  by_cases other : cs = chars "this"
  · subst cs
    exact ⟨_, .this⟩
  by_cases index : HasIndex cs
  · obtain ⟨index, target, shape⟩ := index
    rcases indexCases index with ⟨spec, value⟩ | ⟨digits, e, fault⟩
    · rcases targetCases target with ⟨t, targetText⟩ | blank
      · exact ⟨_, .index shape value targetText⟩
      · exact ⟨_, .indexAlone shape value blank⟩
    · exact ⟨_, .badNumber shape fault⟩
  by_cases allIndex : AfterAll HasIndex cs
  · exact ⟨_, .allIndex allIndex⟩
  by_cases text : HasText cs
  · obtain ⟨cardinality, kind, value, target, shape⟩ := text
    rcases filterCases kind value with ⟨f, filterText⟩ | ⟨rfl, e, bad⟩
    · rcases targetCases target with ⟨t, targetText⟩ | blank
      · exact ⟨_, .text index allIndex shape filterText targetText⟩
      · exact ⟨_, .textAlone index allIndex shape filterText blank⟩
    · exact ⟨_, .badPattern index allIndex shape bad⟩
  by_cases start : HasSigil cs
  · exact ⟨_, .sigil index text start⟩
  · exact ⟨_, .named nonempty other start allIndex text⟩

theorem parseSegmentSound (segment : String) :
    SegmentReads segment.toList (parseSegment segment) := by
  obtain ⟨r, reads⟩ := segmentTotal segment.toList
  have answer := parseSegmentComplete reads
  rw [String.ofList_toList] at answer
  rwa [answer]

theorem parseSegmentExact (segment : String) (r : Except ParseError Step) :
    parseSegment segment = r ↔ SegmentReads segment.toList r := by
  constructor
  · rintro rfl
    exact parseSegmentSound segment
  · intro reads
    have answer := parseSegmentComplete reads
    rwa [String.ofList_toList] at answer

end LocatorPath
