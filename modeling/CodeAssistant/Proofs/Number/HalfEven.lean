import CodeAssistant.Number.Rounding
import Mathlib.Algebra.Order.Field.Basic
import Mathlib.Algebra.Order.Field.Rat
import Mathlib.Algebra.Ring.Int.Parity
import Mathlib.Tactic.FieldSimp
import Mathlib.Tactic.Linarith

namespace CodeAssistant

/-!
# Half-even rounding of rational numbers

Rounding is described here by what it achieves: the result is at most one half away, and if it is
exactly one half away then it is even.  The computed rounding of a quotient has this property
(`isNearestEven_nearestInt`).
-/

/-- The integer `n` is nearest to `x`, and the even one of two that are equally near. -/
def IsNearestEven (x : ℚ) (n : ℤ) : Prop :=
  |x - n| ≤ 1 / 2 ∧ (|x - n| = 1 / 2 → Even n)

/-- Rounding does not leave an interval that begins at an integer. -/
theorem le_nearestInt {p k : ℤ} {q : ℕ} (positive : 0 < q) (low : q * k ≤ p) :
    k ≤ nearestInt p q := by
  by_contra below
  have near := nearestInt_near p positive
  have scaled : (q : ℤ) * nearestInt p q ≤ q * (k - 1) :=
    Int.mul_le_mul_of_nonneg_left (by omega) (by omega)
  rw [Int.mul_sub, Int.mul_one] at scaled
  omega

/-- Rounding does not leave an interval that ends at an integer. -/
theorem nearestInt_le {p k : ℤ} {q : ℕ} (positive : 0 < q) (high : p ≤ q * k) :
    nearestInt p q ≤ k := by
  by_contra above
  have near := nearestInt_near p positive
  have scaled : (q : ℤ) * (k + 1) ≤ q * nearestInt p q :=
    Int.mul_le_mul_of_nonneg_left (by omega) (by omega)
  rw [Int.mul_add, Int.mul_one] at scaled
  omega

/-- The quotient is rounded across exactly one half only from the middle between two integers. -/
theorem half_of_nearestInt_tie (p : ℤ) {q : ℕ} (positive : 0 < q)
    (tie : 2 * |p - q * nearestInt p q| = q) : 2 * (p % q) = q := by
  have split := Int.emod_add_mul_ediv p q
  have low := Int.emod_nonneg p (b := q) (by omega)
  have high := Int.emod_lt_of_pos p (b := q) (by omega)
  have next : (q : ℤ) * (p / q + 1) = q * (p / q) + q := by rw [Int.mul_add, Int.mul_one]
  have value : nearestInt p q = p / q ∨ nearestInt p q = p / q + 1 := by
    unfold nearestInt
    dsimp only
    split_ifs <;> simp
  have signed : 2 * (p - q * nearestInt p q) = q ∨ 2 * (p - q * nearestInt p q) = -q := by
    rcases abs_cases (p - q * nearestInt p q) with ⟨size, _⟩ | ⟨size, _⟩
    · exact Or.inl (by rwa [size] at tie)
    · exact Or.inr (by rw [size] at tie; omega)
  rcases value with below | above
  · rw [below] at signed
    omega
  · rw [above, next] at signed
    omega

theorem isNearestEven_nearestInt (p : ℤ) {q : ℕ} (positive : 0 < q) :
    IsNearestEven (p / q) (nearestInt p q) := by
  have denominator : (0 : ℚ) < q := Nat.cast_pos.mpr positive
  have distance : |(p / q : ℚ) - nearestInt p q| = (|p - q * nearestInt p q| : ℤ) / q := by
    have scaled : (p / q : ℚ) - nearestInt p q = ((p - q * nearestInt p q : ℤ) : ℚ) / q := by
      push_cast
      field_simp
    rw [scaled, abs_div, abs_of_pos denominator, Int.cast_abs]
  rw [IsNearestEven, distance]
  constructor
  · have near := nearestInt_near p positive
    have doubled : 2 * |p - q * nearestInt p q| ≤ q := by
      rcases abs_cases (p - q * nearestInt p q) with ⟨size, _⟩ | ⟨size, _⟩
      · linarith [near.2]
      · linarith [near.1]
    rw [div_le_div_iff₀ denominator two_pos, one_mul, mul_comm]
    exact_mod_cast doubled
  · intro half
    rw [div_eq_div_iff denominator.ne' two_ne_zero, one_mul, mul_comm] at half
    have tie : 2 * |p - q * nearestInt p q| = q := by exact_mod_cast half
    exact Int.even_iff.mpr (nearestInt_even (half_of_nearestInt_tie p positive tie))

end CodeAssistant
