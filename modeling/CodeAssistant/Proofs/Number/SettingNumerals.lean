import CodeAssistant.Number.Numeral
import CodeAssistant.Proofs.Number.Numerals

namespace CodeAssistant

/-!
# How numerals with a limit are read

A numeral of a setting is one or more digits, with or without one plus sign in front of them.  It is
read digit by digit, and reading stops as soon as the number is above the limit or a character is
not a digit.  Further digits never make a number smaller, so it is enough to look at the digits with
which the numeral begins, as a whole: if they are too large this is the fault, whatever stands behind
them, and otherwise it is what stands behind them (`numeral_eq_iff`).
-/

/-- The text without one plus sign in front of it. -/
def unsigned : List Char → List Char
  | '+' :: digits => digits
  | digits => digits

/-- The number that the digits at the beginning of the text denote, which is zero if there are
none. -/
def leadingNumber (cs : List Char) : Nat :=
  Nat.ofDigitChars 10 (cs.takeWhile Char.isDigit) 0

/-- What a text is as a numeral of a number that is at most `limit`. -/
inductive ReadsNumeral (limit : Nat) (cs : List Char) : Except NumeralError Nat → Prop
  | number (given : unsigned cs ≠ []) (digits : ∀ c ∈ unsigned cs, c.isDigit = true)
      (fits : leadingNumber (unsigned cs) ≤ limit) :
      ReadsNumeral limit cs (.ok (leadingNumber (unsigned cs)))
  | empty (nothing : cs = []) : ReadsNumeral limit cs (.error .empty)
  | tooLarge (exceeds : limit < leadingNumber (unsigned cs)) :
      ReadsNumeral limit cs (.error .tooLarge)
  | invalidDigit (something : cs ≠ []) (fits : leadingNumber (unsigned cs) ≤ limit)
      (other : unsigned cs = [] ∨ ∃ c ∈ unsigned cs, c.isDigit = false) :
      ReadsNumeral limit cs (.error .invalidDigit)

variable {limit value : Nat} {cs : List Char} {c : Char}

/-! ## Runs of digits -/

theorem digitValue?_of_not_isDigit (other : c.isDigit = false) : digitValue? c = none := by
  have range : ¬('0' ≤ c ∧ c ≤ '9') := by
    intro range
    have digit : c.isDigit = true := by
      rw [Char.isDigit, Bool.and_eq_true, decide_eq_true_eq, decide_eq_true_eq]
      exact range
    rw [digit] at other
    cases other
  rw [digitValue?, if_neg range]

/-- Further digits never make a number smaller. -/
theorem le_ofDigitChars (cs : List Char) (value : Nat) : value ≤ Nat.ofDigitChars 10 cs value := by
  induction cs generalizing value with
  | nil => exact Nat.le_of_eq Nat.ofDigitChars_nil.symm
  | cons c cs ih =>
    rw [Nat.ofDigitChars_cons]
    exact Nat.le_trans (by omega) (ih _)

/-- The digits up to the first other character decide whether the number is too large, and only then
it matters whether there is another character. -/
theorem numeralFrom_eq (within : value ≤ limit) (cs : List Char) :
    numeralFrom limit value cs =
      if limit < Nat.ofDigitChars 10 (cs.takeWhile Char.isDigit) value then .error .tooLarge
      else if cs.all Char.isDigit then
        .ok (Nat.ofDigitChars 10 (cs.takeWhile Char.isDigit) value)
      else .error .invalidDigit := by
  induction cs generalizing value with
  | nil =>
    rw [numeralFrom, List.takeWhile_nil, Nat.ofDigitChars_nil, if_neg (Nat.not_lt.mpr within)]
    rfl
  | cons c cs ih =>
    rw [numeralFrom, List.all_cons]
    cases digit : c.isDigit with
    | true =>
      rw [digitValue?_of_isDigit digit, List.takeWhile_cons_of_pos digit, Nat.ofDigitChars_cons,
        Bool.true_and]
      by_cases beyond : limit < 10 * value + (c.toNat - '0'.toNat)
      · have larger := Nat.lt_of_lt_of_le beyond (le_ofDigitChars (cs.takeWhile Char.isDigit) _)
        simp only [if_pos beyond, if_pos larger]
      · simp only [if_neg beyond]
        exact ih (Nat.le_of_not_lt beyond)
    | false =>
      rw [digitValue?_of_not_isDigit digit, List.takeWhile_cons_of_neg (Bool.eq_false_iff.mp digit),
        Nat.ofDigitChars_nil, if_neg (Nat.not_lt.mpr within), Bool.false_and]
      rfl

/-! ## Signs -/

theorem unsigned_eq_self (other : cs.head? ≠ some '+') : unsigned cs = cs := by
  unfold unsigned
  split
  · exact absurd rfl other
  · rfl

theorem ne_nil_of_unsigned (given : unsigned cs ≠ []) : cs ≠ [] := by
  rintro rfl
  exact given rfl

/-- A sign in front does not matter, but it is no numeral by itself. -/
theorem numeral_eq_numeralFrom (something : cs ≠ []) :
    numeral limit cs =
      if unsigned cs = [] then .error .invalidDigit else numeralFrom limit 0 (unsigned cs) := by
  unfold numeral
  split
  · exact absurd rfl something
  · rfl
  · next digits other =>
    have given : digits ≠ [] := by
      rintro rfl
      exact other rfl
    rw [unsigned, if_neg given]
  · next notSigned =>
    have same : unsigned cs = cs := by
      apply unsigned_eq_self
      intro plus
      obtain ⟨digits, split⟩ := List.head?_eq_some_iff.mp plus
      exact notSigned digits split
    rw [same, if_neg something]

theorem numeral_of_given (given : unsigned cs ≠ []) :
    numeral limit cs =
      if limit < leadingNumber (unsigned cs) then .error .tooLarge
      else if (unsigned cs).all Char.isDigit then .ok (leadingNumber (unsigned cs))
      else .error .invalidDigit := by
  rw [numeral_eq_numeralFrom (ne_nil_of_unsigned given), if_neg given,
    numeralFrom_eq (Nat.zero_le limit), leadingNumber]

/-! ## Reading -/

theorem readsNumeral_numeral (limit : Nat) (cs : List Char) :
    ReadsNumeral limit cs (numeral limit cs) := by
  by_cases given : unsigned cs = []
  · by_cases nothing : cs = []
    · rw [nothing]
      exact .empty rfl
    · rw [numeral_eq_numeralFrom nothing, if_pos given]
      exact .invalidDigit nothing (given ▸ Nat.zero_le limit) (.inl given)
  · rw [numeral_of_given given]
    split
    · next exceeds => exact .tooLarge exceeds
    · next fits =>
      split
      · next digits => exact .number given (List.all_eq_true.mp digits) (Nat.le_of_not_lt fits)
      · next other =>
        have wrong : ∃ c ∈ unsigned cs, c.isDigit = false := by simpa using other
        exact .invalidDigit (ne_nil_of_unsigned given) (Nat.le_of_not_lt fits) (.inr wrong)

/-- What a text is as a numeral is what it is read as. -/
theorem numeral_eq_iff {outcome : Except NumeralError Nat} :
    numeral limit cs = outcome ↔ ReadsNumeral limit cs outcome := by
  constructor
  · rintro rfl
    exact readsNumeral_numeral limit cs
  · intro reads
    cases reads with
    | number given digits fits =>
      rw [numeral_of_given given, if_neg (Nat.not_lt.mpr fits), if_pos (List.all_eq_true.mpr digits)]
    | empty nothing =>
      rw [nothing]
      rfl
    | tooLarge exceeds =>
      have given : unsigned cs ≠ [] := by
        intro nothing
        rw [nothing] at exceeds
        exact absurd exceeds (Nat.not_lt_zero limit)
      rw [numeral_of_given given, if_pos exceeds]
    | invalidDigit something fits other =>
      by_cases given : unsigned cs = []
      · rw [numeral_eq_numeralFrom something, if_pos given]
      · obtain ⟨c, member, wrong⟩ := other.resolve_left given
        have mixed : ¬(unsigned cs).all Char.isDigit = true := by
          intro digits
          rw [List.all_eq_true.mp digits c member] at wrong
          cases wrong
        rw [numeral_of_given given, if_neg (Nat.not_lt.mpr fits), if_neg mixed]

/-- The fault that comes first counts. -/
example : numeral 65535 "+0065535".toList = .ok 65535 ∧
    numeral 65535 "65536-".toList = .error .tooLarge ∧
    numeral 65535 "65535-".toList = .error .invalidDigit := by
  exact ⟨rfl, rfl, rfl⟩

end CodeAssistant
