import CodeAssistant.Proofs.Number.Ordering
import CodeAssistant.Quality.Metric
import Mathlib.Tactic.Ring

namespace CodeAssistant
namespace Metric

open Binary64

/-!
# Scores of shares

Two dimensions are scored by the share of the lines that are at fault.  The score is computed in
three steps, each of which rounds to 53 significant bits, and rounded to a whole number at the end.
`exactScore` is the score that rounding at the end alone would give.

Both scores fall as the share grows (`falls_shareScore`, `falls_exactScore`), so they agree at a
share as soon as they agree, crosswise, at one below and one above it.  The exact score changes only
at the steps where it is half-way between two whole numbers.  Of a limited number of lines, a share
that is not a step keeps at a certain distance from all steps, and on what is left between two steps
the agreement is seen at the two ends.  There are two hundred steps before the score is zero, and
at the steps themselves the two scores are compared one by one (`shareScore_eq_or_step`).

With weight 500 they agree at every step.  With weight 600 there are four steps at which the three
roundings make a half-way score a little too large or too small, so that it is rounded to the wrong
side.
-/

/-- The share of the counted lines in all lines.  No lines count as one. -/
def share (count total : ℕ) : ℚ :=
  count / (max 1 total : ℕ)

/-- A full score less `weight` times the share, rounded to the nearest whole number. -/
def exactScore (weight count total : ℕ) : UInt8 :=
  clampScore (nearestInt (100 * (max 1 total : ℕ) - weight * count) (max 1 total))

/-- A larger share never has a higher score.  In particular, equal shares have equal scores. -/
def Falls (score : ℕ → ℕ → UInt8) : Prop :=
  ∀ ⦃count total count' total' : ℕ⦄, share count total ≤ share count' total' →
    score count' total' ≤ score count total

theorem max_one_pos (total : ℕ) : 0 < max 1 total :=
  Nat.lt_of_lt_of_le Nat.one_pos (Nat.le_max_left 1 total)

theorem share_le_share_iff {count total count' total' : ℕ} :
    share count total ≤ share count' total' ↔
      count * max 1 total' ≤ count' * max 1 total := by
  rw [share, share, div_le_div_iff₀ (Nat.cast_pos.mpr (max_one_pos _))
    (Nat.cast_pos.mpr (max_one_pos _))]
  norm_cast

theorem share_eq_share_iff {count total count' total' : ℕ} :
    share count total = share count' total' ↔
      count * max 1 total' = count' * max 1 total := by
  rw [le_antisymm_iff, share_le_share_iff, share_le_share_iff, ← le_antisymm_iff]

theorem clampScore_le {value value' : ℤ} (below : value ≤ value') :
    clampScore value ≤ clampScore value' := by
  rw [UInt8.le_iff_toNat_le, toNat_clampScore, toNat_clampScore]
  omega

theorem falls_shareScore (weight : ℕ) : Falls (shareScore weight) := by
  intro count total count' total' below
  have quotients : (ofRatio count (max 1 total)).value ≤ (ofRatio count' (max 1 total')).value :=
    value_ofRatio_le (max_one_pos _) (max_one_pos _)
      (by rw [Int.cast_natCast, Int.cast_natCast]; exact below)
  exact clampScore_le (toInt_le (value_subtractedFrom_le 100 (value_times_le quotients weight)))

/-- The exact score without the bounds, as one quotient. -/
theorem quotient_eq (weight count total : ℕ) :
    ((100 * (max 1 total : ℕ) - weight * count : ℤ) : ℚ) / (max 1 total : ℕ) =
      100 - weight * share count total := by
  have nonzero : ((max 1 total : ℕ) : ℚ) ≠ 0 := Nat.cast_ne_zero.mpr (max_one_pos total).ne'
  rw [share, Int.cast_sub, sub_div, mul_div_assoc']
  push_cast at nonzero ⊢
  rw [mul_div_cancel_right₀ _ nonzero]

theorem falls_exactScore (weight : ℕ) : Falls (exactScore weight) := by
  intro count total count' total' below
  apply clampScore_le
  apply nearestInt_le_nearestInt (max_one_pos _) (max_one_pos _)
  rw [quotient_eq, quotient_eq]
  have scaled := mul_le_mul_of_nonneg_left below (Nat.cast_nonneg (α := ℚ) weight)
  linarith

/-- The exact score is the nearest whole number within the bounds. -/
theorem exists_nearest (weight count total : ℕ) :
    ∃ nearest : ℤ, IsNearestEven (100 - weight * share count total) nearest ∧
      ((exactScore weight count total).toNat : ℤ) = max 0 (min 100 nearest) := by
  refine ⟨nearestInt (100 * (max 1 total : ℕ) - weight * count) (max 1 total), ?_, ?_⟩
  · have nearest := isNearestEven_nearestInt (100 * (max 1 total : ℕ) - weight * count)
      (max_one_pos total)
    rwa [quotient_eq] at nearest
  · rw [exactScore, toNat_clampScore]
    omega

namespace Falls

variable {score score' : ℕ → ℕ → UInt8} {count total count' total' : ℕ}

theorem eq_of_share_eq (falls : Falls score) (same : share count total = share count' total') :
    score count total = score count' total' :=
  UInt8.le_antisymm (falls same.ge) (falls same.le)

/-- Two falling scores are squeezed together between two shares at which they agree crosswise. -/
theorem eq_of_between (falls : Falls score) (falls' : Falls score')
    {lowCount lowTotal highCount highTotal : ℕ}
    (low : share lowCount lowTotal ≤ share count total)
    (high : share count total ≤ share highCount highTotal)
    (agree : score lowCount lowTotal = score' highCount highTotal)
    (agree' : score' lowCount lowTotal = score highCount highTotal) :
    score count total = score' count total := by
  have upper : score' highCount highTotal ≤ score' count total := falls' high
  have lower : score highCount highTotal ≤ score count total := falls high
  rw [← agree] at upper
  rw [← agree'] at lower
  exact UInt8.le_antisymm (UInt8.le_trans (falls low) upper) (UInt8.le_trans (falls' low) lower)

theorem eq_zero (falls : Falls score) (above : share count total ≤ share count' total')
    (zero : score count total = 0) : score count' total' = 0 := by
  have below := falls above
  rw [zero, UInt8.le_iff_toNat_le] at below
  exact UInt8.toNat_inj.mp (Nat.le_zero.mp below)

end Falls

/-! ## From step to step -/

/-- A limit on the number of lines. -/
def limit : ℕ :=
  units 40

/-- The weights of the two dimensions. -/
def weights : List ℕ :=
  [500, 600]

/-- Next to two neighbouring steps, on the inner side, the two scores agree. -/
theorem agree_between_steps : ∀ weight ∈ weights, ∀ step < 200,
    shareScore weight (step * limit + 1) (2 * weight * limit) =
        exactScore weight ((step + 1) * limit - 1) (2 * weight * limit) ∧
      exactScore weight (step * limit + 1) (2 * weight * limit) =
        shareScore weight ((step + 1) * limit - 1) (2 * weight * limit) := by
  decide +kernel

/-- From the last step on the scores are zero. -/
theorem zero_at_last_step : ∀ weight ∈ weights,
    shareScore weight 200 (2 * weight) = 0 ∧ exactScore weight 200 (2 * weight) = 0 := by
  decide +kernel

section
variable {weight step count n : ℕ}

/-- Behind a step, the next share of at most `limit` lines is at least this far away. -/
theorem behind_step (few : n ≤ limit) (behind : step * n < 2 * weight * count) :
    (step * limit + 1) * n ≤ count * (2 * weight * limit) := by
  calc
    (step * limit + 1) * n = step * n * limit + n := by ring
    _ ≤ step * n * limit + limit := Nat.add_le_add_left few _
    _ = (step * n + 1) * limit := by ring
    _ ≤ 2 * weight * count * limit := Nat.mul_le_mul_right limit behind
    _ = count * (2 * weight * limit) := by ring

/-- Before a step, the last share of at most `limit` lines is at least this far away. -/
theorem before_step (few : n ≤ limit) (before : 2 * weight * count < (step + 1) * n) :
    count * (2 * weight * limit) ≤ ((step + 1) * limit - 1) * n := by
  have scaled : (2 * weight * count + 1) * limit ≤ (step + 1) * n * limit :=
    Nat.mul_le_mul_right limit before
  rw [Nat.sub_mul, Nat.one_mul]
  apply Nat.le_sub_of_add_le
  calc
    count * (2 * weight * limit) + n ≤ count * (2 * weight * limit) + limit :=
      Nat.add_le_add_left few _
    _ = (2 * weight * count + 1) * limit := by ring
    _ ≤ (step + 1) * n * limit := scaled
    _ = (step + 1) * limit * n := by ring

end

section
variable {weight step count total : ℕ} (member : weight ∈ weights)
include member

theorem weight_pos : 0 < weight := by
  have positive : ∀ weight ∈ weights, 0 < weight := by decide
  exact positive weight member

theorem shareScore_eq_of_last (last : 200 * max 1 total ≤ 2 * weight * count) :
    shareScore weight count total = exactScore weight count total := by
  have above : share 200 (2 * weight) ≤ share count total := by
    rw [share_le_share_iff, Nat.max_eq_right (Nat.mul_pos Nat.two_pos (weight_pos member)),
      Nat.mul_comm count]
    exact last
  have zero := zero_at_last_step weight member
  rw [(falls_shareScore weight).eq_zero above zero.1,
    (falls_exactScore weight).eq_zero above zero.2]

theorem shareScore_eq_of_between (few : total ≤ limit) (bound : step < 200)
    (behind : step * max 1 total < 2 * weight * count)
    (before : 2 * weight * count < (step + 1) * max 1 total) :
    shareScore weight count total = exactScore weight count total := by
  have limited : max 1 total ≤ limit := Nat.max_le.mpr ⟨units_pos 40, few⟩
  have whole : max 1 (2 * weight * limit) = 2 * weight * limit :=
    Nat.max_eq_right (Nat.mul_pos (Nat.mul_pos Nat.two_pos (weight_pos member)) (units_pos 40))
  have low : share (step * limit + 1) (2 * weight * limit) ≤ share count total := by
    rw [share_le_share_iff, whole]
    exact behind_step limited behind
  have high : share count total ≤ share ((step + 1) * limit - 1) (2 * weight * limit) := by
    rw [share_le_share_iff, whole]
    exact before_step limited before
  have agree := agree_between_steps weight member step bound
  exact (falls_shareScore weight).eq_of_between (falls_exactScore weight) low high agree.1 agree.2

/-- The score of a share that is not a step is exact. -/
theorem shareScore_eq_or_step (few : total ≤ limit) :
    shareScore weight count total = exactScore weight count total ∨
      ∃ step < 200, share count total = share step (2 * weight) := by
  have split := Nat.div_add_mod (2 * weight * count) (max 1 total)
  have rest := Nat.mod_lt (2 * weight * count) (max_one_pos total)
  generalize 2 * weight * count / max 1 total = step at split
  rw [Nat.mul_comm] at split
  by_cases last : 200 ≤ step
  · have reached : 200 * max 1 total ≤ step * max 1 total := Nat.mul_le_mul_right _ last
    exact Or.inl (shareScore_eq_of_last member (by omega))
  · by_cases exact : 2 * weight * count % max 1 total = 0
    · refine Or.inr ⟨step, Nat.lt_of_not_le last, ?_⟩
      rw [share_eq_share_iff, Nat.max_eq_right (Nat.mul_pos Nat.two_pos (weight_pos member)),
        Nat.mul_comm count]
      omega
    · have next : (step + 1) * max 1 total = step * max 1 total + max 1 total := by
        rw [Nat.add_mul, Nat.one_mul]
      exact Or.inl (shareScore_eq_of_between member few (Nat.lt_of_not_le last) (by omega)
        (by omega))

end

theorem le_limit {total : ℕ} (few : total < 2 ^ 40) : total ≤ limit :=
  few.le

/-! ## Weight 500 -/

theorem exact_at_step : ∀ step < 200, shareScore 500 step 1000 = exactScore 500 step 1000 := by
  decide +kernel

theorem riskScore_eq_exactScore (count : ℕ) {total : ℕ} (few : total ≤ limit) :
    shareScore 500 count total = exactScore 500 count total := by
  rcases shareScore_eq_or_step (by decide : 500 ∈ weights) few with same | ⟨step, bound, same⟩
  · exact same
  · calc
      shareScore 500 count total = shareScore 500 step 1000 :=
        (falls_shareScore 500).eq_of_share_eq same
      _ = exactScore 500 step 1000 := exact_at_step step bound
      _ = exactScore 500 count total := ((falls_exactScore 500).eq_of_share_eq same).symm

/-- The line holds one of the risk words in its lower case. -/
def HasRiskWord (line : String) : Prop :=
  ∃ word ∈ riskWords, word.toList <:+: (Text.lower line).toList

instance (line : String) : Decidable (HasRiskWord line) :=
  inferInstanceAs (Decidable (∃ word ∈ riskWords, word.toList <:+: (Text.lower line).toList))

theorem isRisky_iff {line : String} : isRisky line = true ↔ HasRiskWord line := by
  rw [isRisky, List.any_eq_true, HasRiskWord, Text.toList_lower]
  simp only [Text.occursIn_iff]

theorem riskyLines_eq (lines : List String) :
    riskyLines lines = lines.countP fun line => decide (HasRiskWord line) := by
  apply List.countP_congr
  intro line member
  rw [isRisky_iff, decide_eq_true_eq]

/-- The score for the density of risk words is exact. -/
theorem evaluate_defectDensity (lines : List String) (few : lines.length < 2 ^ 40) :
    let risky := lines.countP fun line => decide (HasRiskWord line)
    ∃ nearest : ℤ, IsNearestEven (100 - 500 * share risky lines.length) nearest ∧
      ((Metric.defectDensity.evaluate lines).score.toNat : ℤ) = max 0 (min 100 nearest) := by
  intro risky
  have counted : riskyLines lines = risky := riskyLines_eq lines
  have score : (Metric.defectDensity.evaluate lines).score =
      exactScore 500 risky lines.length := by
    rw [← counted, ← riskScore_eq_exactScore (riskyLines lines) (le_limit few)]
    rfl
  have nearest := exists_nearest 500 risky lines.length
  rw [Nat.cast_ofNat] at nearest
  rw [score]
  exact nearest

/-- With one risky line out of eight the score is half-way between 37 and 38. -/
theorem evaluate_defectDensity_eighth :
    let lines := "// TODO: rename" :: List.replicate 7 "x = 1"
    let risky := lines.countP fun line => decide (HasRiskWord line)
    lines.length < 2 ^ 40 ∧ (Metric.defectDensity.evaluate lines).score = 38 ∧
      ∃ nearest : ℤ, IsNearestEven (100 - 500 * share risky lines.length) nearest ∧
        ((Metric.defectDensity.evaluate lines).score.toNat : ℤ) = max 0 (min 100 nearest) :=
  ⟨by decide, by decide +kernel, evaluate_defectDensity _ (by decide)⟩

/-! ## Weight 600 -/

/-- The steps that are rounded to the wrong side with weight 600. -/
def misroundedSteps : List ℕ :=
  [79, 123, 171, 181]

/-- The shares that belong to these steps. -/
def misroundedShares : List ℚ :=
  [79 / 1200, 123 / 1200, 171 / 1200, 181 / 1200]

theorem mem_misroundedShares_iff {count total : ℕ} :
    share count total ∈ misroundedShares ↔
      ∃ step ∈ misroundedSteps, share count total = share step 1200 := by
  simp [misroundedShares, misroundedSteps, share]

theorem misrounded_at_step : ∀ step ∈ misroundedSteps,
    ((shareScore 600 step 1200).toNat - (exactScore 600 step 1200).toNat : ℤ).natAbs = 1 := by
  decide +kernel

theorem exact_at_other_step : ∀ step < 200, step ∉ misroundedSteps →
    shareScore 600 step 1200 = exactScore 600 step 1200 := by
  decide +kernel

/-- The score is exact unless the three roundings end on the wrong side of a half, and then it is
one point away. -/
theorem copyScore_eq_exactScore_iff (count : ℕ) {total : ℕ} (few : total ≤ limit) :
    (shareScore 600 count total = exactScore 600 count total ↔
        share count total ∉ misroundedShares) ∧
      ((shareScore 600 count total).toNat - (exactScore 600 count total).toNat : ℤ).natAbs ≤ 1 := by
  by_cases misrounded : share count total ∈ misroundedShares
  · obtain ⟨step, member, same⟩ := mem_misroundedShares_iff.mp misrounded
    have apart := misrounded_at_step step member
    rw [(falls_shareScore 600).eq_of_share_eq same, (falls_exactScore 600).eq_of_share_eq same]
    refine ⟨⟨fun equal => ?_, fun other => absurd misrounded other⟩, apart.le⟩
    rw [equal, Int.sub_self] at apart
    cases apart
  · have exact : shareScore 600 count total = exactScore 600 count total := by
      rcases shareScore_eq_or_step (by decide : 600 ∈ weights) few with same | ⟨step, bound, same⟩
      · exact same
      · have other : step ∉ misroundedSteps := fun member =>
          misrounded (mem_misroundedShares_iff.mpr ⟨step, member, same⟩)
        rw [(falls_shareScore 600).eq_of_share_eq same, (falls_exactScore 600).eq_of_share_eq same]
        exact exact_at_other_step step bound other
    rw [exact, Int.sub_self]
    exact ⟨⟨fun _ => misrounded, fun _ => rfl⟩, Nat.zero_le 1⟩

/-- The score for duplication is exact but for four shares of copies, where it is one point away. -/
theorem evaluate_duplication (lines : List String) (few : lines.length < 2 ^ 40) :
    ∃ nearest : ℤ, IsNearestEven (100 - 600 * share (copies lines) lines.length) nearest ∧
      let score : ℤ := (Metric.duplication.evaluate lines).score.toNat
      let exact : ℤ := max 0 (min 100 nearest)
      (score = exact ↔ share (copies lines) lines.length ∉ misroundedShares) ∧
        (score - exact).natAbs ≤ 1 := by
  obtain ⟨nearest, isNearest, exact⟩ := exists_nearest 600 (copies lines) lines.length
  have compared := copyScore_eq_exactScore_iff (copies lines) (le_limit few)
  have score : (Metric.duplication.evaluate lines).score =
      shareScore 600 (copies lines) lines.length := rfl
  rw [Nat.cast_ofNat] at isNearest
  refine ⟨nearest, isNearest, ?_⟩
  rw [score, ← exact]
  dsimp only
  rw [Int.natCast_inj, UInt8.toNat_inj]
  exact compared

/-- With one copy among sixteen lines the score is half-way between 62 and 63. -/
theorem evaluate_duplication_sixteenth :
    let lines := ["total += 1", "Total += 1"] ++ List.replicate 14 "end"
    lines.length < 2 ^ 40 ∧ (Metric.duplication.evaluate lines).score = 62 ∧
      ∃ nearest : ℤ, IsNearestEven (100 - 600 * share (copies lines) lines.length) nearest ∧
        let score : ℤ := (Metric.duplication.evaluate lines).score.toNat
        let exact : ℤ := max 0 (min 100 nearest)
        (score = exact ↔ share (copies lines) lines.length ∉ misroundedShares) ∧
          (score - exact).natAbs ≤ 1 :=
  ⟨by decide, by decide +kernel, evaluate_duplication _ (by decide)⟩

/-- With 41 copies among 400 lines the exact score is half-way between 38 and 39, of which 38 is
even. -/
theorem evaluate_duplication_misrounded :
    let lines := List.replicate 42 "copied" ++ List.replicate 358 "end"
    copies lines = 41 ∧ lines.length = 400 ∧
      (Metric.duplication.evaluate lines).score = 39 ∧
      ∀ nearest : ℤ, IsNearestEven (100 - 600 * share (copies lines) lines.length) nearest →
        ((Metric.duplication.evaluate lines).score.toNat : ℤ) ≠ max 0 (min 100 nearest) := by
  intro lines
  have counted : copies lines = 41 := by decide +kernel
  have length : lines.length = 400 := by decide +kernel
  have score : (Metric.duplication.evaluate lines).score = 39 := by decide +kernel
  refine ⟨counted, length, score, fun nearest isNearest => ?_⟩
  have half : IsNearestEven (100 - 600 * share 41 400) 38 := by
    have middle : (100 : ℚ) - 600 * share 41 400 - (38 : ℤ) = 1 / 2 := by norm_num [share]
    rw [IsNearestEven, middle, abs_of_pos one_half_pos]
    exact ⟨le_rfl, fun _ => by decide⟩
  rw [counted, length] at isNearest
  rw [score, isNearest.unique half]
  decide

end Metric
end CodeAssistant
