import Mathlib.Data.List.Induction
import LocatorPath.Path.Segment

/-! Digits and the numbers that they stand for. A reading ends at the first digit that is not ASCII
or leaves the 64 bits; without such a digit the value is exact. -/
namespace LocatorPath

def decimalValue (digits : List Char) : Nat := Nat.ofDigitChars 10 digits 0

def PlainDigits (digits : List Char) : Prop := ∀ c ∈ digits, c.isDigit = true

structure NumberText (digits : List Char) (n : UInt64) : Prop where
  plain : PlainDigits digits
  exact : decimalValue digits = n.toNat

inductive NumberFault : List Char → NumberError → Prop where
  | badDigit {before c after} (plain : PlainDigits before) (fits : decimalValue before < UInt64.size)
      (bad : c.isDigit = false) : NumberFault (before ++ c :: after) .badDigit
  | tooLarge {before c after} (plain : PlainDigits (before ++ [c])) (fits : decimalValue before < UInt64.size)
      (large : UInt64.size ≤ decimalValue (before ++ [c])) : NumberFault (before ++ c :: after) .tooLarge

theorem decimalValueConcat (digits : List Char) (c : Char) :
    decimalValue (digits ++ [c]) = decimalValue digits * 10 + (c.toNat - '0'.toNat) := by
  simp only [decimalValue, Nat.ofDigitChars_append, Nat.ofDigitChars_cons, Nat.ofDigitChars_nil,
    Nat.mul_comm]

theorem decimalValueAppend (before after : List Char) : decimalValue before ≤ decimalValue (before ++ after) := by
  rw [decimalValue, decimalValue, Nat.ofDigitChars_append, Nat.ofDigitChars_eq_ofDigitChars_zero (l := after)]
  exact Nat.le_add_right_of_le (Nat.le_mul_of_pos_left _ (Nat.pow_pos (by decide)))

theorem readNumberStep {before : List Char} {c : Char} {after : List Char}
    (digit : c.isDigit = true) (fits : decimalValue (before ++ [c]) < UInt64.size) :
    readNumber (decimalValue before) (c :: after) = readNumber (decimalValue (before ++ [c])) after := by
  rw [decimalValueConcat] at fits ⊢
  simp only [readNumber, digit, Bool.not_true, Bool.false_eq_true, if_false]
  rw [if_neg (Nat.not_le.mpr fits)]

theorem readNumberAppend {before : List Char} (plain : PlainDigits before)
    (fits : decimalValue before < UInt64.size) (after : List Char) :
    readNumber 0 (before ++ after) = readNumber (decimalValue before) after := by
  induction before using List.reverseRecOn generalizing after with
  | nil => rfl
  | append_singleton digits c ih =>
    have less := Nat.lt_of_le_of_lt (decimalValueAppend digits [c]) fits
    rw [List.append_assoc, List.singleton_append,
      ih (fun d inside => plain d (List.mem_append_left _ inside)) less,
      readNumberStep (plain c (by simp)) fits]

theorem readNumberValue {digits : List Char} {n : UInt64} (text : NumberText digits n) :
    readNumber 0 digits = .ok n := by
  have fits : decimalValue digits < UInt64.size := text.exact ▸ n.toNat_lt
  have all := readNumberAppend text.plain fits []
  rw [List.append_nil] at all
  rw [all, readNumber, text.exact, UInt64.ofNat_toNat]

theorem readNumberFails {digits : List Char} {e : NumberError} (fault : NumberFault digits e) :
    readNumber 0 digits = .error e := by
  cases fault with
  | badDigit plain fits bad => simp [readNumberAppend plain fits, readNumber, bad]
  | @tooLarge before c after plain fits large =>
    have digit : c.isDigit = true := plain c (by simp)
    have first : PlainDigits before := fun d inside => plain d (List.mem_append_left _ inside)
    rw [decimalValueConcat] at large
    rw [readNumberAppend first fits, readNumber, digit]
    simp only [Bool.not_true, Bool.false_eq_true, if_false, if_pos large]

/- Every text of digits is of one of the two kinds. The induction is on the digits still unread. -/
theorem numberCases (digits : List Char) :
    (∃ n, NumberText digits n) ∨ ∃ e, NumberFault digits e := by
  have step : ∀ after before, PlainDigits before → decimalValue before < UInt64.size →
      (∃ n, NumberText (before ++ after) n) ∨ ∃ e, NumberFault (before ++ after) e := by
    intro after
    induction after with
    | nil =>
      intro before plain fits
      refine Or.inl ⟨.ofNat (decimalValue before), by simpa using plain, ?_⟩
      rw [List.append_nil, UInt64.toNat_ofNat_of_lt' fits]
    | cons c rest ih =>
      intro before plain fits
      cases digit : c.isDigit with
      | false => exact Or.inr ⟨_, .badDigit plain fits digit⟩
      | true =>
        have next : PlainDigits (before ++ [c]) := by
          intro d inside
          rcases List.mem_append.mp inside with old | new
          · exact plain d old
          · rw [List.mem_singleton.mp new, digit]
        by_cases small : decimalValue (before ++ [c]) < UInt64.size
        · simpa using ih (before ++ [c]) next small
        · exact Or.inr ⟨_, .tooLarge next fits (Nat.not_lt.mp small)⟩
  exact step digits [] (by simp [PlainDigits]) (by decide)

theorem readNumberExact {digits : List Char} {n : UInt64} :
    readNumber 0 digits = .ok n ↔ NumberText digits n := by
  refine ⟨fun read => ?_, readNumberValue⟩
  rcases numberCases digits with ⟨m, text⟩ | ⟨e, fault⟩
  · cases (readNumberValue text).symm.trans read
    exact text
  · cases (readNumberFails fault).symm.trans read

theorem readNumberFault {digits : List Char} {e : NumberError} :
    readNumber 0 digits = .error e ↔ NumberFault digits e := by
  refine ⟨fun read => ?_, readNumberFails⟩
  rcases numberCases digits with ⟨m, text⟩ | ⟨d, fault⟩
  · cases (readNumberValue text).symm.trans read
  · cases (readNumberFails fault).symm.trans read
    exact fault

theorem decimalPlain (n : Nat) : PlainDigits (decimal n) := fun _ inside =>
  Nat.isDigit_of_mem_toDigits (by decide) (by decide) inside

theorem decimalExact (n : Nat) : decimalValue (decimal n) = n := Nat.ofDigitChars_ten_toDigits

theorem decimalText (n : UInt64) : NumberText (decimal n.toNat) n :=
  ⟨decimalPlain n.toNat, decimalExact n.toNat⟩

end LocatorPath
