import CodeAssistant.Proofs.Quality.BranchingBound
import CodeAssistant.Proofs.Quality.Consistency

namespace CodeAssistant
namespace Metric

/-!
# More lines, lower scores

Code of up to five hundred lines is scored in three falling bands.  Longer code is scored by a
decline that begins at one hundred again and ends at forty, long before the limit of one hundred
points that is set to it (`toNat_sizeScore_of_long`).  One line more is therefore never an
improvement, with the single exception of the line after the five hundredth (`sizeScore_succ_le`,
`sizeScore_jump`), and what holds of one line more holds of any number of them on the same side of
the exception (`sizeScore_le_of_le`).

The decline is computed in numbers of the machine, the lines in unsigned and the points in signed
ones.  Whatever the number of lines, each step of this gives the number that is meant
(`SizeFits`), and so the machine computes the score (`machineSizeScore_eq`).
-/

theorem toNat_sizeScore_eq (count : Nat) :
    (sizeScore count).toNat =
      if count ≤ 100 then 95
      else if count ≤ 250 then 80
      else if count ≤ 500 then 65
      else max 40 (100 - (count - 500) / 5) := by
  unfold sizeScore
  split_ifs
  · rfl
  · rfl
  · rfl
  · rw [toNat_clampScore]
    omega

/-- Beyond the bands nothing limits the decline but forty. -/
theorem toNat_sizeScore_of_long {count : Nat} (long : 500 < count) :
    ((sizeScore count).toNat : ℤ) = max 40 (100 - ((count : ℤ) - 500) / 5) := by
  rw [toNat_sizeScore_eq, if_neg (by omega), if_neg (by omega), if_neg (by omega)]
  omega

/-! ## One line more -/

theorem sizeScore_succ_le {count : Nat} (other : count ≠ 500) :
    sizeScore (count + 1) ≤ sizeScore count := by
  rw [UInt8.le_iff_toNat_le, toNat_sizeScore_eq, toNat_sizeScore_eq]
  split_ifs <;> omega

theorem sizeScore_jump : sizeScore 500 < sizeScore 501 := by
  decide

theorem sizeScore_lt_succ_iff (count : Nat) :
    sizeScore count < sizeScore (count + 1) ↔ count = 500 := by
  constructor
  · intro better
    by_contra other
    exact UInt8.not_lt.mpr (sizeScore_succ_le other) better
  · rintro rfl
    exact sizeScore_jump

/-- On either side of the jump, code does not gain by lines. -/
theorem sizeScore_le_of_le {count more : Nat} (fewer : count ≤ more)
    (side : more ≤ 500 ∨ 500 < count) : sizeScore more ≤ sizeScore count := by
  -- Neither side is left on the way from `count` up to `more`.
  induction more, fewer using Nat.le_induction with
  | base => exact UInt8.le_refl _
  | succ more fewer ih =>
    have here : sizeScore (more + 1) ≤ sizeScore more := sizeScore_succ_le (by omega)
    exact UInt8.le_trans here (ih (by omega))

/-- A better score for more lines is one from beyond the jump. -/
theorem jump_between {count more : Nat} (fewer : count < more)
    (better : sizeScore count < sizeScore more) : count ≤ 500 ∧ 500 < more := by
  by_contra apart
  have worse := sizeScore_le_of_le fewer.le (by omega)
  exact UInt8.not_lt.mpr worse better

/-! ## Numbers of the machine -/

/-- The lines behind the five hundredth. -/
def surplus (count : USize) : USize :=
  count - 500

/-- The points that they take away. -/
def decline (count : USize) : Int64 :=
  (min (surplus count / 5) 100).toUInt64.toInt64

/-- What is left, but no less than forty. -/
def declined (count : USize) : Int64 :=
  max (100 - decline count) 40

/-- The score for a number of lines, as the machine computes it. -/
def machineSizeScore (count : USize) : UInt8 :=
  if count ≤ 100 then 95
  else if count ≤ 250 then 80
  else if count ≤ 500 then 65
  else lowByte (clamp (declined count) 0 100)

/-- Every number on the way to the score is the one that is meant.  The difference of the lines does
not fall below zero, the points have the same value with a sign, neither their difference nor the
limits change what is left, and it fits into a byte. -/
structure SizeFits (count : USize) : Prop where
  lines : (surplus count).toNat + 500 = count.toNat
  points : (decline count).toInt = min 100 (((count.toNat : ℤ) - 500) / 5)
  difference : (100 - decline count).toInt = 100 - (decline count).toInt
  limits : clamp (declined count) 0 100 = declined count
  byte : ((lowByte (clamp (declined count) 0 100)).toNat : ℤ) = (declined count).toInt

theorem toNat_min (first second : USize) :
    (min first second).toNat = min first.toNat second.toNat := by
  have smaller : min first second = if first ≤ second then first else second := rfl
  rw [smaller, Nat.min_def]
  simp only [USize.le_iff_toNat_le]
  split <;> rfl

theorem toInt_max (first second : Int64) :
    (max first second).toInt = max first.toInt second.toInt := by
  have greater : max first second = if first ≤ second then second else first := rfl
  rw [greater, Int.max_def]
  simp only [Int64.le_iff_toInt_le]
  split <;> rfl

/-- A number that has room beside a sign keeps its value. -/
theorem toInt_toInt64 {value : UInt64} (small : value.toNat < 9223372036854775808) :
    value.toInt64.toInt = value.toNat := by
  calc
    value.toInt64.toInt = (Int64.ofNat value.toNat).toInt := by
      rw [← UInt64.toInt64_ofNat', UInt64.ofNat_toNat]
    _ = value.toNat := Int64.toInt_ofNat_of_lt small

section
variable {count : USize} (long : 500 < count)

include long

theorem long_toNat : 500 < count.toNat := by
  simpa only [USize.lt_iff_toNat_lt, USize.reduceToNat] using long

theorem toNat_surplus : (surplus count).toNat = count.toNat - 500 := by
  simp only [surplus, USize.toNat_sub_of_le _ _ (USize.le_of_lt long), USize.reduceToNat]

theorem toInt_decline : (decline count).toInt = min 100 (((count.toNat : ℤ) - 500) / 5) := by
  have points : (min (surplus count / 5) 100).toUInt64.toNat =
      min ((count.toNat - 500) / 5) 100 := by
    simp only [USize.toNat_toUInt64, toNat_min, USize.toNat_div, toNat_surplus long,
      USize.reduceToNat]
  have above := long_toNat long
  rw [decline, toInt_toInt64 (by omega), points]
  omega

theorem toInt_difference : (100 - decline count).toInt = 100 - (decline count).toInt := by
  have points := toInt_decline long
  have above := long_toNat long
  exact toInt_sub_of_nonneg (by decide) (by omega)

theorem toInt_declined :
    (declined count).toInt = max 40 (100 - ((count.toNat : ℤ) - 500) / 5) := by
  have forty : (40 : Int64).toInt = 40 := by decide
  rw [declined, toInt_max, toInt_difference long, toInt_decline long, forty]
  omega

theorem clamp_declined : clamp (declined count) 0 100 = declined count := by
  have left := toInt_declined long
  have above := long_toNat long
  have zero : (0 : Int64).toInt = 0 := by decide
  have hundred : (100 : Int64).toInt = 100 := by decide
  apply Int64.toInt_inj.mp
  rw [toInt_clamp (by decide), zero, hundred]
  omega

theorem sizeFits_of_long : SizeFits count where
  lines := by
    rw [toNat_surplus long]
    exact Nat.sub_add_cancel (long_toNat long).le
  points := toInt_decline long
  difference := toInt_difference long
  limits := clamp_declined long
  byte := by
    have left := toInt_declined long
    have above := long_toNat long
    rw [clamp_declined long, toNat_lowByte (by omega) (by omega)]

end

theorem machineSizeScore_eq (count : USize) : machineSizeScore count = sizeScore count.toNat := by
  by_cases long : 500 < count
  · have above := long_toNat long
    have score : machineSizeScore count = lowByte (clamp (declined count) 0 100) := by
      simp only [machineSizeScore, USize.le_iff_toNat_le, USize.reduceToNat]
      rw [if_neg (by omega), if_neg (by omega), if_neg (by omega)]
    apply UInt8.toNat_inj.mp
    apply Int.natCast_inj.mp
    rw [score, (sizeFits_of_long long).byte, toInt_declined long, toNat_sizeScore_of_long above]
  · have short : count.toNat ≤ 500 := by
      simpa only [USize.not_lt, USize.le_iff_toNat_le, USize.reduceToNat] using long
    simp only [machineSizeScore, sizeScore, USize.le_iff_toNat_le, USize.reduceToNat]
    rw [if_pos short, if_pos short]

/-- Code has a better score than code of fewer lines only if it has more than five hundred lines and
the other code has not, and one line more improves the score of five hundred lines alone.  Scores are
between forty and one hundred, and beyond five hundred lines they decline by one point for every
five lines.  The machine computes them for every number of lines that it can count. -/
theorem sizeScore_rises_once (count : Nat) :
    (∀ more, count < more → sizeScore count < sizeScore more → count ≤ 500 ∧ 500 < more) ∧
      (sizeScore count < sizeScore (count + 1) ↔ count = 500) ∧
      (40 ≤ (sizeScore count).toNat ∧ (sizeScore count).toNat ≤ 100) ∧
      (500 < count →
        ((sizeScore count).toNat : ℤ) = max 40 (100 - ((count : ℤ) - 500) / 5)) ∧
      ∀ lines : USize, lines.toNat = count →
        machineSizeScore lines = sizeScore count ∧ (500 < lines → SizeFits lines) := by
  refine ⟨fun more => jump_between, sizeScore_lt_succ_iff count, toNat_sizeScore count,
    toNat_sizeScore_of_long, ?_⟩
  rintro lines rfl
  exact ⟨machineSizeScore_eq lines, sizeFits_of_long⟩

/-- Over the jump, along the decline and behind the end of it. -/
theorem sizeScore_rises_once_at_jump :
    (sizeScore 480 < sizeScore 523 ∧ 480 ≤ 500 ∧ 500 < 523) ∧
      ((sizeScore 523).toNat : ℤ) = max 40 (100 - (523 - 500) / 5) ∧
      machineSizeScore 1003 = sizeScore 1003 ∧ SizeFits 1003 := by
  have better : sizeScore 480 < sizeScore 523 := by decide
  have counted : (1003 : USize).toNat = 1003 := by simp
  have machine := (sizeScore_rises_once 1003).2.2.2.2 1003 counted
  refine ⟨⟨better, (sizeScore_rises_once 480).1 523 (by decide) better⟩,
    (sizeScore_rises_once 523).2.2.2.1 (by decide), machine.1, machine.2 ?_⟩
  simp only [USize.lt_iff_toNat_lt, USize.reduceToNat]
  decide

end Metric
end CodeAssistant
