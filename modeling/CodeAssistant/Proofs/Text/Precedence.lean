import CodeAssistant.Proofs.Number.Numerals
import Mathlib.Algebra.Group.Nat.Defs

namespace CodeAssistant
namespace Text

/-!
# Texts in the order of a dictionary

A text comes before another one, whatever follows the two, when they differ and the first place
where they do decides it (`Precedes`).  This is so for texts that are put together from parts, when
it is so for the first parts that differ (`Precedes.of_parts`).  Numerals that are filled with zeros
up to the same width come in the order of their numbers (`precedes_decimalPadded`).
-/

/-- The first text comes before the second, whatever follows them. -/
def Precedes (first second : String) : Prop :=
  ∀ r s : String, first ++ r < second ++ s

variable {first second r s : String}

theorem Precedes.lt (before : Precedes first second) : first < second := by
  have alone := before "" ""
  rwa [String.append_empty, String.append_empty] at alone

theorem Precedes.append (before : Precedes first second) (r s : String) :
    Precedes (first ++ r) (second ++ s) := by
  intro x y
  rw [String.append_assoc, String.append_assoc]
  exact before (r ++ x) (s ++ y)

theorem Precedes.append_left (before : Precedes first second) (start : String) :
    Precedes (start ++ first) (start ++ second) := by
  intro x y
  rw [String.append_assoc, String.append_assoc, String.lt_iff, @String.toList_append start,
    @String.toList_append start]
  exact List.append_left_lt (String.lt_iff.mp (before x y))

/-- The first parts that differ decide. -/
theorem Precedes.of_parts (decided : Precedes first second ∨ first = second ∧ Precedes r s) :
    Precedes (first ++ r) (second ++ s) := by
  rcases decided with before | ⟨rfl, before⟩
  · exact before.append r s
  · exact before.append_left first

theorem precedes_of_char {c d : Char} (smaller : c < d) :
    Precedes (String.ofList [c]) (String.ofList [d]) := by
  intro x y
  rw [String.lt_iff, String.toList_append, String.toList_append, String.toList_ofList,
    String.toList_ofList]
  exact List.Lex.rel smaller

/-! ## Numerals of one width -/

theorem digitChar_lt : ∀ n < 10, ∀ m < n, Nat.digitChar m < Nat.digitChar n := by
  decide

theorem decimalPadded_one {n : Nat} (digit : n < 10) :
    decimalPadded '0' 1 n = String.ofList [Nat.digitChar n] := by
  rw [decimalPadded, Nat.toDigits_of_lt_base digit]
  rfl

/-- All digits but the last are those of a numeral that is one place shorter. -/
theorem decimalPadded_add_two (width n : Nat) :
    decimalPadded '0' (width + 2) n =
      decimalPadded '0' (width + 1) (n / 10) ++ String.ofList [Nat.digitChar (n % 10)] := by
  rw [decimalPadded, decimalPadded, ← String.ofList_append, List.leftpad, List.leftpad]
  by_cases digit : n < 10
  · have zero : Nat.toDigits 10 0 = ['0'] := rfl
    rw [Nat.toDigits_of_lt_base digit, Nat.div_eq_of_lt digit, Nat.mod_eq_of_lt digit, zero]
    simp [List.replicate_succ']
  · rw [Nat.toDigits_of_base_le (by decide) (Nat.le_of_not_lt digit)]
    simp

/-- Smaller numbers come first. -/
theorem precedes_decimalPadded {width m n : Nat} (smaller : m < n) (fits : n < 10 ^ (width + 1)) :
    Precedes (decimalPadded '0' (width + 1) m) (decimalPadded '0' (width + 1) n) := by
  induction width generalizing m n with
  | zero =>
    rw [Nat.zero_add, Nat.pow_one] at fits
    rw [decimalPadded_one fits, decimalPadded_one (Nat.lt_trans smaller fits)]
    exact precedes_of_char (digitChar_lt n fits m smaller)
  | succ width ih =>
    rw [decimalPadded_add_two, decimalPadded_add_two]
    apply Precedes.of_parts
    rcases Nat.lt_or_ge (m / 10) (n / 10) with earlier | rest
    · exact Or.inl (ih earlier (Nat.div_lt_of_lt_mul (by rwa [Nat.mul_comm, ← Nat.pow_succ])))
    · have same : m / 10 = n / 10 := by omega
      have last : m % 10 < n % 10 := by omega
      have digits := digitChar_lt _ (Nat.mod_lt _ (by decide)) _ last
      exact Or.inr ⟨by rw [same], precedes_of_char digits⟩

end Text
end CodeAssistant
