import CodeAssistant.Number.Binary64
import CodeAssistant.Proofs.Number.HalfEven
import Mathlib.Tactic.GCongr
import Mathlib.Tactic.Ring

namespace CodeAssistant

/-!
# Rounding keeps the order

Rounding may make two different numbers equal, but it never exchanges them.  For the nearest
integer this follows from what it achieves (`IsNearestEven.le`).  With 53 significant bits the place
to which a number is rounded depends on its size, and two numbers may be rounded to different
places.  The power of two at which the places change then lies between the two numbers, and as it is
a whole number of units of either place, neither number is rounded across it (`value_ofRatio_le`).

Every operation on such numbers rounds an exact result once, so each of them keeps the order of its
arguments, or reverses it where the exact operation does.
-/

/-! ## Nearest integers -/

namespace IsNearestEven

variable {x y : ℚ} {m n : ℤ}

/-- Were the order reversed, the two numbers would be the same half, rounded to both sides. -/
theorem le (nearest : IsNearestEven x m) (nearest' : IsNearestEven y n) (below : x ≤ y) :
    m ≤ n := by
  by_contra above
  have apart : (n : ℚ) + 1 ≤ m := by exact_mod_cast Int.not_le.mp above
  have low := abs_le.mp nearest.1
  have high := abs_le.mp nearest'.1
  have same : x = y := by linarith
  have next : (m : ℚ) = n + 1 := by linarith
  have half : x - m = -(1 / 2) ∧ y - n = 1 / 2 := by
    constructor <;> linarith
  have even : Even m := nearest.2 (by rw [half.1, abs_neg, abs_of_pos one_half_pos])
  have even' : Even n := nearest'.2 (by rw [half.2, abs_of_pos one_half_pos])
  have successor : m = n + 1 := by exact_mod_cast next
  rw [successor] at even
  exact Int.not_even_iff_odd.mpr even'.add_one even

theorem unique (nearest : IsNearestEven x m) (nearest' : IsNearestEven x n) : m = n :=
  le_antisymm (nearest.le nearest' le_rfl) (nearest'.le nearest le_rfl)

theorem neg (nearest : IsNearestEven x m) : IsNearestEven (-x) (-m) := by
  have distance : |-x - ((-m : ℤ) : ℚ)| = |x - m| := by
    rw [Int.cast_neg, ← abs_neg]
    congr 1
    ring
  rw [IsNearestEven, distance]
  exact ⟨nearest.1, fun half => (nearest.2 half).neg⟩

end IsNearestEven

theorem nearestInt_le_nearestInt {p p' : ℤ} {q q' : ℕ} (positive : 0 < q) (positive' : 0 < q')
    (below : (p / q : ℚ) ≤ p' / q') : nearestInt p q ≤ nearestInt p' q' :=
  (isNearestEven_nearestInt p positive).le (isNearestEven_nearestInt p' positive') below

/-- Rounding treats both signs alike. -/
theorem nearestInt_neg (p : ℤ) {q : ℕ} (positive : 0 < q) :
    nearestInt (-p) q = -nearestInt p q := by
  have negated := isNearestEven_nearestInt (-p) positive
  rw [Int.cast_neg, neg_div] at negated
  exact negated.unique (isNearestEven_nearestInt p positive).neg

namespace Binary64

/-! ## Binary places -/

theorem units_pos (scale : ℕ) : 0 < units scale :=
  Nat.two_pow_pos scale

theorem units_add (first second : ℕ) : units (first + second) = units first * units second :=
  Nat.pow_add 2 first second

theorem units_le {first second : ℕ} (fewer : first ≤ second) : units first ≤ units second :=
  Nat.pow_le_pow_right (by decide) fewer

theorem units_log2_le {n : ℕ} (positive : 0 < n) : units n.log2 ≤ n :=
  Nat.log2_self_le positive.ne'

theorem lt_units_log2 (n : ℕ) : n < units (n.log2 + 1) :=
  Nat.lt_log2_self

theorem units_one : units 1 = 2 := rfl

/-- The first guess at the places is not too large. -/
theorem guess_upper (p : ℕ) {q : ℕ} (positive : 0 < q) :
    p * units (52 + q.log2 - p.log2) < q * units 53 ∨ 52 + q.log2 - p.log2 = 0 := by
  by_cases room : p.log2 ≤ 52 + q.log2
  · left
    have exponent : p.log2 + 1 + (52 + q.log2 - p.log2) = q.log2 + 53 := by omega
    calc
      p * units (52 + q.log2 - p.log2) < units (p.log2 + 1) * units (52 + q.log2 - p.log2) :=
        Nat.mul_lt_mul_of_pos_right (lt_units_log2 p) (units_pos _)
      _ = units q.log2 * units 53 := by rw [← units_add, exponent, units_add]
      _ ≤ q * units 53 := Nat.mul_le_mul_right _ (units_log2_le positive)
  · right
    omega

/-- The first guess at the places is one too small at most. -/
theorem guess_lower {p : ℕ} (q : ℕ) (positive : 0 < p) :
    q * units 52 ≤ p * units (52 + q.log2 - p.log2 + 1) := by
  have exponent : q.log2 + 1 + 52 ≤ p.log2 + (52 + q.log2 - p.log2 + 1) := by omega
  calc
    q * units 52 ≤ units (q.log2 + 1) * units 52 :=
      Nat.mul_le_mul_right _ (lt_units_log2 q).le
    _ = units (q.log2 + 1 + 52) := (units_add _ _).symm
    _ ≤ units (p.log2 + (52 + q.log2 - p.log2 + 1)) := units_le exponent
    _ = units p.log2 * units (52 + q.log2 - p.log2 + 1) := units_add _ _
    _ ≤ p * units (52 + q.log2 - p.log2 + 1) := Nat.mul_le_mul_right _ (units_log2_le positive)

/-- A number has at least 53 binary digits in front of its last place, and not more if it has
places behind the point. -/
theorem places_spec {p q : ℕ} (positive : 0 < p) (positive' : 0 < q) :
    q * units 52 ≤ p * units (places p q) ∧
      (p * units (places p q) < q * units 53 ∨ places p q = 0) := by
  have double (scale : ℕ) : units (scale + 1) = units scale * 2 := units_add scale 1
  simp only [places]
  split
  · next small =>
    refine ⟨guess_lower q positive, Or.inl ?_⟩
    rw [double, double 52, ← Nat.mul_assoc, ← Nat.mul_assoc]
    omega
  · next large => exact ⟨Nat.le_of_not_lt large, guess_upper p positive'⟩

/-! ## Rounding to 53 bits -/

/-- The number itself. -/
def value (x : Binary64) : ℚ :=
  x.significand / units x.scale

theorem value_ofRatio (p : ℤ) (q : ℕ) :
    (ofRatio p q).value =
      (nearestInt (p * units (places p.natAbs q)) q : ℚ) / units (places p.natAbs q) := rfl

theorem value_ofRatio_neg (p : ℤ) {q : ℕ} (positive : 0 < q) :
    (ofRatio (-p) q).value = -(ofRatio p q).value := by
  rw [value_ofRatio, value_ofRatio, Int.natAbs_neg, Int.neg_mul, nearestInt_neg _ positive,
    Int.cast_neg, neg_div]

theorem value_ofRatio_nonneg {p : ℤ} {q : ℕ} (positive : 0 < q) (sign : 0 ≤ p) :
    0 ≤ (ofRatio p q).value := by
  have whole : 0 ≤ p * (units (places p.natAbs q) : ℤ) :=
    Int.mul_nonneg sign (Int.natCast_nonneg _)
  have rounded : 0 ≤ nearestInt (p * units (places p.natAbs q)) q :=
    le_nearestInt positive (by rwa [Int.mul_zero])
  rw [value_ofRatio]
  exact div_nonneg (by exact_mod_cast rounded) (Nat.cast_nonneg _)

theorem value_ofRatio_nonpos {p : ℤ} {q : ℕ} (positive : 0 < q) (sign : p ≤ 0) :
    (ofRatio p q).value ≤ 0 := by
  have mirrored := value_ofRatio_nonneg positive (Int.neg_nonneg_of_nonpos sign)
  rw [value_ofRatio_neg p positive] at mirrored
  exact neg_nonneg.mp mirrored

theorem scale_ofRatio (p q : ℕ) : (ofRatio p q).scale = places p q := rfl

theorem le_significand {p q : ℕ} (positive : 0 < p) (denominator : 0 < q) :
    units 52 ≤ (ofRatio p q).significand := by
  have low := (places_spec positive denominator).1
  exact le_nearestInt denominator (by exact_mod_cast low)

theorem significand_le {p q : ℕ} (positive : 0 < p) (denominator : 0 < q) :
    (ofRatio p q).significand ≤ units 53 ∨ places p q = 0 := by
  refine (places_spec positive denominator).2.imp_left fun high => ?_
  exact nearestInt_le denominator (by exact_mod_cast high.le)

section
variable {p p' q q' : ℕ} (positive : 0 < p) (denominator : 0 < q) (denominator' : 0 < q')
  (below : p * q' ≤ p' * q)
include positive denominator denominator' below

/-- A larger number has fewer places behind the point. -/
theorem places_le_places : places p' q' ≤ places p q := by
  by_contra more
  have positive' : 0 < p' := Nat.pos_of_mul_pos_right
    (Nat.lt_of_lt_of_le (Nat.mul_pos positive denominator') below)
  have low := (places_spec positive denominator).1
  have high := (places_spec positive' denominator').2.resolve_right (by omega)
  have fewer : units (places p q) * 2 ≤ units (places p' q') := by
    have next : units (places p q + 1) ≤ units (places p' q') := units_le (by omega)
    rwa [units_add] at next
  have crossed : q * q' * units 53 < q * q' * units 53 := by
    calc
      q * q' * units 53 = q * units 52 * q' * 2 := by rw [units_add 52 1, units_one]; ring
      _ ≤ p * units (places p q) * q' * 2 := by gcongr
      _ = p * q' * (units (places p q) * 2) := by ring
      _ ≤ p' * q * units (places p' q') := Nat.mul_le_mul below fewer
      _ = q * (p' * units (places p' q')) := by ring
      _ < q * (q' * units 53) := Nat.mul_lt_mul_of_pos_left high denominator
      _ = q * q' * units 53 := by ring
  exact Nat.lt_irrefl _ crossed

/-- Rounded to different places, the smaller number does not get past the power of two at which the
places change, and the larger one does not fall below it. -/
theorem value_ofRatio_le_of_pos : (ofRatio p q).value ≤ (ofRatio p' q').value := by
  have positive' : 0 < p' := Nat.pos_of_mul_pos_right
    (Nat.lt_of_lt_of_le (Nat.mul_pos positive denominator') below)
  have unitsPos : (0 : ℚ) < units (places p q) := Nat.cast_pos.mpr (units_pos _)
  have unitsPos' : (0 : ℚ) < units (places p' q') := Nat.cast_pos.mpr (units_pos _)
  rcases (places_le_places positive denominator denominator' below).eq_or_lt with same | fewer
  · have quotients : ((p * units (places p q) : ℤ) / q : ℚ) ≤
        (p' * units (places p q) : ℤ) / q' := by
      rw [div_le_div_iff₀ (Nat.cast_pos.mpr denominator) (Nat.cast_pos.mpr denominator')]
      have scaled := Nat.mul_le_mul_right (units (places p q)) below
      rw [Nat.mul_right_comm, Nat.mul_right_comm p'] at scaled
      exact_mod_cast scaled
    have rounded := nearestInt_le_nearestInt denominator denominator' quotients
    rw [value_ofRatio, value_ofRatio, Int.natAbs_natCast, Int.natAbs_natCast, same]
    exact div_le_div_of_nonneg_right (by exact_mod_cast rounded) unitsPos.le
  · have high := (significand_le positive denominator).resolve_right (by omega)
    have low := le_significand positive' denominator'
    have change : units 53 * units (places p' q') ≤ units 52 * units (places p q) := by
      rw [← units_add, ← units_add]
      exact units_le (by omega)
    have crossed : (ofRatio p q).significand * units (places p' q') ≤
        (ofRatio p' q').significand * units (places p q) := by
      calc
        (ofRatio p q).significand * (units (places p' q') : ℤ) ≤
            units 53 * units (places p' q') := by gcongr
        _ ≤ units 52 * units (places p q) := by exact_mod_cast change
        _ ≤ (ofRatio p' q').significand * units (places p q) := by gcongr
    rw [value, value, scale_ofRatio, scale_ofRatio, div_le_div_iff₀ unitsPos unitsPos']
    exact_mod_cast crossed

end

/-- Rounding to 53 significant bits keeps the order. -/
theorem value_ofRatio_le {p p' : ℤ} {q q' : ℕ} (positive : 0 < q) (positive' : 0 < q')
    (below : (p / q : ℚ) ≤ p' / q') : (ofRatio p q).value ≤ (ofRatio p' q').value := by
  rw [div_le_div_iff₀ (Nat.cast_pos.mpr positive) (Nat.cast_pos.mpr positive')] at below
  rcases le_or_gt p 0 with sign | sign
  · rcases le_or_gt 0 p' with sign' | sign'
    · exact (value_ofRatio_nonpos positive sign).trans (value_ofRatio_nonneg positive' sign')
    · obtain ⟨n, rfl⟩ := Int.exists_eq_neg_ofNat sign
      obtain ⟨n', rfl⟩ := Int.exists_eq_neg_ofNat sign'.le
      have above : 0 < n' := by omega
      have crossed : n' * q ≤ n * q' := by
        push_cast at below
        rw [neg_mul, neg_mul, neg_le_neg_iff] at below
        exact_mod_cast below
      rw [value_ofRatio_neg _ positive, value_ofRatio_neg _ positive', neg_le_neg_iff]
      exact value_ofRatio_le_of_pos above positive' positive crossed
  · have crossed : p * q' ≤ p' * q := by exact_mod_cast below
    have sign' : 0 < p' * q :=
      lt_of_lt_of_le (Int.mul_pos sign (Int.natCast_pos.mpr positive')) crossed
    obtain ⟨n, rfl⟩ := Int.eq_ofNat_of_zero_le sign.le
    obtain ⟨n', rfl⟩ := Int.eq_ofNat_of_zero_le
      (pos_of_mul_pos_left sign' (Int.natCast_nonneg q)).le
    exact value_ofRatio_le_of_pos (Int.natCast_pos.mp sign) positive positive'
      (by exact_mod_cast crossed)

/-! ## Operations -/

variable {x y : Binary64}

theorem value_times_le (below : x.value ≤ y.value) (k : ℕ) :
    (x.times k).value ≤ (y.times k).value := by
  apply value_ofRatio_le (units_pos _) (units_pos _)
  have scaled := mul_le_mul_of_nonneg_right below (Nat.cast_nonneg k)
  rw [value, value, div_mul_eq_mul_div, div_mul_eq_mul_div] at scaled
  exact_mod_cast scaled

/-- The more is taken away, the less is left. -/
theorem value_subtractedFrom_le (k : ℕ) (below : x.value ≤ y.value) :
    (y.subtractedFrom k).value ≤ (x.subtractedFrom k).value := by
  have difference (z : Binary64) :
      ((k * units z.scale - z.significand : ℤ) : ℚ) / units z.scale = k - z.value := by
    have nonzero : (units z.scale : ℚ) ≠ 0 := Nat.cast_ne_zero.mpr (units_pos _).ne'
    rw [value]
    push_cast
    field_simp
  apply value_ofRatio_le (units_pos _) (units_pos _)
  rw [difference, difference]
  linarith

theorem toInt_le (below : x.value ≤ y.value) : x.toInt ≤ y.toInt :=
  nearestInt_le_nearestInt (units_pos _) (units_pos _) below

end Binary64
end CodeAssistant
