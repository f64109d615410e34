import LocatorPath.Path.Segment
import Mathlib.Data.List.Basic

/-! The shape of a segment with an index, as a text and without a reader: `#`, an index, ` of ` and
one line. The reader finds this shape in a segment exactly where it is. -/
namespace LocatorPath
open Unicode (isDecimalDigit)

def DigitRun (digits : List Char) : Prop :=
  digits ≠ [] ∧ ∀ c ∈ digits, isDecimalDigit c = true

def LineText (cs : List Char) : Prop := cs ≠ [] ∧ '\n' ∉ cs

inductive IndexText : WrittenIndex → List Char → Prop where
  | first : IndexText .first (chars "FIRST")
  | last : IndexText .last (chars "LAST")
  | nth {digits} (run : DigitRun digits) : IndexText (.nth digits) digits
  | between {low high} (lowRun : DigitRun low) (highRun : DigitRun high) :
      IndexText (.between low high) (low ++ '-' :: high)
  | above {digits} (run : DigitRun digits) : IndexText (.above digits) ('>' :: digits)
  | below {digits} (run : DigitRun digits) : IndexText (.below digits) ('<' :: digits)

structure IndexShape (cs : List Char) (index : WrittenIndex) (target : List Char) : Prop where
  text : ∃ token, IndexText index token ∧ cs = '#' :: (token ++ chars " of " ++ target)
  line : LineText target

theorem isDigitsIff {cs : List Char} : isDigits cs = true ↔ DigitRun cs := by
  simp [isDigits, DigitRun]

theorem isLineTextIff {cs : List Char} : isLineText cs = true ↔ LineText cs := by
  simp only [isLineText, LineText, Bool.and_eq_true, Bool.not_eq_true', List.isEmpty_eq_false_iff,
    List.all_eq_true, bne_iff_ne]
  exact and_congr_right fun _ => ⟨fun all inside => all _ inside rfl,
    fun none c inside same => none (same ▸ inside)⟩

theorem DigitRun.avoids {digits : List Char} (run : DigitRun digits) {c : Char}
    (other : isDecimalDigit c = false) : c ∉ digits := by
  intro inside
  rw [run.2 c inside] at other
  contradiction

theorem DigitRun.head {digits : List Char} (run : DigitRun digits) :
    ∃ d rest, digits = d :: rest ∧ isDecimalDigit d = true := by
  obtain ⟨d, rest, rfl⟩ := List.exists_cons_of_ne_nil run.1
  exact ⟨d, rest, rfl, run.2 d List.mem_cons_self⟩

theorem readUnsigned {d : Char} {rest : List Char} (digit : isDecimalDigit d = true) :
    WrittenIndex.read? (d :: rest) =
      if isDigits (d :: rest) then some (.nth (d :: rest))
      else match (d :: rest).dropWhile isDecimalDigit with
        | '-' :: high =>
          if isDigits ((d :: rest).takeWhile isDecimalDigit) && isDigits high then
            some (.between ((d :: rest).takeWhile isDecimalDigit) high)
          else none
        | _ => none := by
  have other {c : Char} (plain : isDecimalDigit c = false) : d ≠ c := by
    intro same
    rw [← same, digit] at plain
    contradiction
  have notF : d ≠ 'F' := other (by decide)
  have notL : d ≠ 'L' := other (by decide)
  have notAbove : d ≠ '>' := other (by decide)
  have notBelow : d ≠ '<' := other (by decide)
  unfold WrittenIndex.read?
  rw [if_neg (by simp [chars, notF]), if_neg (by simp [chars, notL])]
  split
  · next same => exact absurd (List.cons.inj same).1 notAbove
  · next same => exact absurd (List.cons.inj same).1 notBelow
  · rfl

theorem readIndexComplete {index : WrittenIndex} {token : List Char}
    (text : IndexText index token) : WrittenIndex.read? token = some index := by
  cases text with
  | first => rfl
  | last => rfl
  | nth run =>
    obtain ⟨d, rest, rfl, digit⟩ := run.head
    rw [readUnsigned digit, if_pos (isDigitsIff.mpr run)]
  | @between low high lowRun highRun =>
    have noDigits : ¬ isDigits (low ++ '-' :: high) = true := fun all =>
      (isDigitsIff.mp all).avoids (c := '-') (by decide) (by simp)
    have cutLow : (low ++ '-' :: high).takeWhile isDecimalDigit = low := by
      rw [List.takeWhile_append_of_pos lowRun.2, List.takeWhile_cons_of_neg (by decide),
        List.append_nil]
    have cutHigh : (low ++ '-' :: high).dropWhile isDecimalDigit = '-' :: high := by
      rw [List.dropWhile_append_of_pos lowRun.2, List.dropWhile_cons_of_neg (by decide)]
    obtain ⟨d, rest, rfl, digit⟩ := lowRun.head
    rw [List.cons_append] at noDigits cutLow cutHigh ⊢
    rw [readUnsigned digit, if_neg noDigits, cutHigh, cutLow]
    simp [isDigitsIff.mpr lowRun, isDigitsIff.mpr highRun]
  | above run =>
    have digits := isDigitsIff.mpr run
    simp [WrittenIndex.read?, chars, digits]
  | below run =>
    have digits := isDigitsIff.mpr run
    simp [WrittenIndex.read?, chars, digits]

theorem readIndexSound {index : WrittenIndex} {token : List Char}
    (read : WrittenIndex.read? token = some index) : IndexText index token := by
  unfold WrittenIndex.read? at read
  split at read
  · next same =>
    cases read
    rw [beq_iff_eq.mp same]
    exact .first
  · split at read
    · next same =>
      cases read
      rw [beq_iff_eq.mp same]
      exact .last
    · split at read
      · split at read <;> try contradiction
        next digits =>
        cases read
        exact .above (isDigitsIff.mp digits)
      · split at read <;> try contradiction
        next digits =>
        cases read
        exact .below (isDigitsIff.mp digits)
      · split at read
        · next digits =>
          cases read
          exact .nth (isDigitsIff.mp digits)
        · split at read <;> try contradiction
          next high cut =>
          dsimp only at read
          split at read <;> try contradiction
          next both =>
          cases read
          obtain ⟨lowRun, highRun⟩ := Bool.and_eq_true_iff.mp both
          have whole := List.takeWhile_append_dropWhile (p := isDecimalDigit) (l := token)
          rw [cut] at whole
          have text := IndexText.between (isDigitsIff.mp lowRun) (isDigitsIff.mp highRun)
          rwa [whole] at text

theorem readIndexExact {index : WrittenIndex} {token : List Char} :
    WrittenIndex.read? token = some index ↔ IndexText index token :=
  ⟨readIndexSound, readIndexComplete⟩

theorem IndexText.noSpace {index : WrittenIndex} {token : List Char}
    (text : IndexText index token) : ∀ c ∈ token, (c != ' ') = true := by
  have runs {digits : List Char} (run : DigitRun digits) : ∀ c ∈ digits, (c != ' ') = true := by
    intro c inside
    exact bne_iff_ne.mpr fun same => run.avoids (by decide) (same ▸ inside)
  cases text with
  | first => simp [chars]
  | last => simp [chars]
  | nth run => exact runs run
  | between lowRun highRun =>
    intro c inside
    rcases List.mem_append.mp inside with low | high
    · exact runs lowRun c low
    · rcases List.mem_cons.mp high with rfl | high
      · decide
      · exact runs highRun c high
  | above run | below run =>
    intro c inside
    rcases List.mem_cons.mp inside with rfl | inside
    · decide
    · exact runs run c inside

/- The space before `of` is the first one, so it cuts the segment where the shape has its index. -/
theorem indexFormExact {cs : List Char} {index : WrittenIndex} {target : List Char} :
    indexForm? cs = some (index, target) ↔ IndexShape cs index target := by
  constructor
  · intro read
    unfold indexForm? at read
    split at read <;> try contradiction
    next cs =>
    simp only [bind, Option.bind_eq_some_iff] at read
    obtain ⟨found, hi, rest, cut, last⟩ := read
    split at last <;> try contradiction
    next line =>
    cases last
    refine ⟨⟨_, readIndexExact.mp hi, ?_⟩, isLineTextIff.mp line⟩
    rw [List.append_assoc, List.append_eq_of_isPrefixOf?_eq_some cut,
      List.takeWhile_append_dropWhile]
  · rintro ⟨⟨token, text, rfl⟩, line⟩
    have before : (token ++ chars " of " ++ target).takeWhile (· != ' ') = token := by
      rw [List.append_assoc, List.takeWhile_append_of_pos text.noSpace]
      simp [chars]
    have after : (token ++ chars " of " ++ target).dropWhile (· != ' ') = chars " of " ++ target := by
      rw [List.append_assoc, List.dropWhile_append_of_pos text.noSpace]
      simp [chars]
    have cut : (chars " of ").isPrefixOf? (chars " of " ++ target) = some target :=
      List.isPrefixOf?_eq_some_iff_append_eq.mpr rfl
    simp only [indexForm?, before, after, cut, readIndexExact.mpr text, bind, Option.bind_some,
      isLineTextIff.mpr line, if_true]

end LocatorPath
