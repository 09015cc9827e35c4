import CodeAssistant.Number.Decimal
import Mathlib.Logic.Function.Defs

namespace CodeAssistant

/-!
# Numerals denote their numbers

The numeral of a number is made of digits only and does not start with a zero, unless it is the
numeral of zero.  It is read back as the number (`digitsValue?_decimal`), so two numbers with the
same numeral are equal.  A numeral may also be padded to a width that is sufficient for it.
-/

@[simp]
theorem toList_decimal (n : Nat) : (decimal n).toList = Nat.toDigits 10 n :=
  String.toList_ofList

theorem isDigit_of_mem_decimal {n : Nat} {c : Char} (member : c ∈ (decimal n).toList) :
    c.isDigit = true := by
  rw [toList_decimal] at member
  exact Nat.isDigit_of_mem_toDigits (by decide) (by decide) member

theorem decimal_lacks {c : Char} (other : c.isDigit = false) (n : Nat) : c ∉ (decimal n).toList := by
  intro member
  rw [isDigit_of_mem_decimal member] at other
  cases other

theorem digitChar_ne_zero : ∀ digit < 10, 0 < digit → Nat.digitChar digit ≠ '0' := by
  decide

/-- No numeral has a superfluous zero in front. -/
theorem head?_toDigits {n : Nat} (positive : 0 < n) : (Nat.toDigits 10 n).head? ≠ some '0' := by
  induction n using Nat.strongRecOn with
  | ind n ih =>
    by_cases small : n < 10
    · rw [Nat.toDigits_of_lt_base small, List.head?_cons, ne_eq, Option.some.injEq]
      exact digitChar_ne_zero n small positive
    · have large : 10 ≤ n := Nat.le_of_not_lt small
      have first := ih (n / 10) (Nat.div_lt_self positive (by decide))
        (Nat.div_pos large (by decide))
      rw [Nat.toDigits_of_base_le (by decide) large, List.head?_append,
        List.head?_eq_some_head Nat.toDigits_ne_nil, Option.some_or]
      rwa [List.head?_eq_some_head Nat.toDigits_ne_nil] at first

theorem digitValue?_of_isDigit {c : Char} (digit : c.isDigit = true) :
    digitValue? c = some (c.toNat - '0'.toNat) := by
  rw [Char.isDigit, Bool.and_eq_true, decide_eq_true_eq, decide_eq_true_eq] at digit
  have range : '0' ≤ c ∧ c ≤ '9' := digit
  rw [digitValue?, if_pos range]

theorem foldlM_digits {cs : List Char} (digits : ∀ c ∈ cs, c.isDigit = true) (value : Nat) :
    cs.foldlM (fun value c => (digitValue? c).map (10 * value + ·)) value =
      some (Nat.ofDigitChars 10 cs value) := by
  induction cs generalizing value with
  | nil => rfl
  | cons c cs ih =>
    rw [List.forall_mem_cons] at digits
    rw [List.foldlM_cons, digitValue?_of_isDigit digits.1, Option.map_some, Option.bind_eq_bind,
      Option.bind_some, ih digits.2, Nat.ofDigitChars_cons]

theorem digitsValue?_decimal (n : Nat) : digitsValue? (decimal n).toList = some n := by
  rw [digitsValue?, foldlM_digits (fun _ => isDigit_of_mem_decimal), toList_decimal,
    Nat.ofDigitChars_ten_toDigits]

theorem decimal_injective : Function.Injective decimal := by
  intro m n same
  have read := digitsValue?_decimal m
  rw [same, digitsValue?_decimal, Option.some.injEq] at read
  exact read.symm

/-! ## Numerals of a fixed width -/

theorem length_decimalPadded (fill : Char) {width n : Nat}
    (fits : (decimal n).toList.length ≤ width) :
    (decimalPadded fill width n).toList.length = width := by
  rw [toList_decimal] at fits
  rw [decimalPadded, String.toList_ofList, List.length_leftpad, Nat.max_eq_left fits]

theorem eq_or_isDigit_of_mem_decimalPadded {fill c : Char} {width n : Nat}
    (member : c ∈ (decimalPadded fill width n).toList) : c = fill ∨ c.isDigit = true := by
  rw [decimalPadded, String.toList_ofList, List.leftpad, List.mem_append] at member
  rcases member with filled | digit
  · exact Or.inl (List.eq_of_mem_replicate filled)
  · exact Or.inr (Nat.isDigit_of_mem_toDigits (by decide) (by decide) digit)

/-- A numeral that is filled with zeros has only digits. -/
theorem isDigit_of_mem_decimalPadded {width n : Nat} {c : Char}
    (member : c ∈ (decimalPadded '0' width n).toList) : c.isDigit = true := by
  rcases eq_or_isDigit_of_mem_decimalPadded member with zero | digit
  · rw [zero]
    rfl
  · exact digit

/-- The digits are all that is left of a padded numeral without its padding. -/
theorem filter_decimalPadded {fill : Char} (other : fill.isDigit = false) (width n : Nat) :
    (decimalPadded fill width n).toList.filter Char.isDigit = (decimal n).toList := by
  rw [decimalPadded, String.toList_ofList, List.leftpad, List.filter_append,
    List.filter_replicate_of_neg (by simp [other]), List.nil_append, toList_decimal,
    List.filter_eq_self]
  intro c member
  exact Nat.isDigit_of_mem_toDigits (by decide) (by decide) member

/-- A numeral that fits its width is told apart from any text after it. -/
theorem decimalPadded_append_inj {fill : Char} (other : fill.isDigit = false) {width m n : Nat}
    (firstFits : (decimal m).toList.length ≤ width) (secondFits : (decimal n).toList.length ≤ width)
    {r s : String} (same : decimalPadded fill width m ++ r = decimalPadded fill width n ++ s) :
    m = n ∧ r = s := by
  have chars := congrArg String.toList same
  rw [String.toList_append, String.toList_append] at chars
  have lengths : (decimalPadded fill width m).toList.length =
      (decimalPadded fill width n).toList.length := by
    rw [length_decimalPadded fill firstFits, length_decimalPadded fill secondFits]
  obtain ⟨numerals, rest⟩ := List.append_inj chars lengths
  have digits := congrArg (List.filter Char.isDigit) numerals
  rw [filter_decimalPadded other, filter_decimalPadded other] at digits
  exact ⟨decimal_injective (String.toList_inj.mp digits), String.toList_inj.mp rest⟩

end CodeAssistant
