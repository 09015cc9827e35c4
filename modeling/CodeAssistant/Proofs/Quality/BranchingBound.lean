import CodeAssistant.Proofs.Quality.Branching
import CodeAssistant.Proofs.Quality.Invariance
import CodeAssistant.Proofs.Text.Charges

namespace CodeAssistant
namespace Metric

open Text

/-!
# How many branching points there can be

The words that mark branching points overlap, and the six characters of `elifor` hold three of them,
so words cannot be told apart by the text they cover.  Each of them can nevertheless be charged
to two characters of its own.  Words that share characters are charged to the ones they do not share:
an `elif` to the `e` and the `l`, the `if` that it ends in to the `i` and the `f`, and a `for` that
begins with this `f` to the `o` and the `r`.  Fourteen different characters pay for the eleven words
(`charges_grouped`), hence the branching points of a line are at most half as many as its
characters in lower case.

The number of branching points is therefore small enough for the score to be computed in numbers of
64 bits, where only the product is kept from running out of them (`branching_fits`).
-/

/-! ## Charges -/

/-- Words made of letters are charged to the characters that all of them have at two places. -/
theorem charges_letters {group : List (List Char)} {c d : Char} (i j : Nat)
    (part : group.Sublist (letterWords.map String.toList))
    (first : ∀ word ∈ group, word[i]? = some c) (second : ∀ word ∈ group, word[j]? = some d) :
    Charges group [c, d] :=
  charges_of_places i j (fun word member => isUnbordered_letterWords word (part.subset member))
    (pairwise_letterWords.sublist part) first second

/-- All the words are charged to fourteen characters, two for the words of a group and one for a sign
that stands twice. -/
theorem charges_grouped :
    Charges ((["if", "for", "while", "when", "case", "catch", "elif", "else if", "switch", "&&",
      "||"]).map String.toList) "iforwhcaelst&|".toList := by
  have ifs : Charges ["if".toList] ['i', 'f'] :=
    charges_letters 0 1 (by decide) (by decide) (by decide)
  have fors : Charges ["for".toList] ['o', 'r'] :=
    charges_letters 1 2 (by decide) (by decide) (by decide)
  have loops : Charges ["while".toList, "when".toList] ['w', 'h'] :=
    charges_letters 0 1 (by decide) (by decide) (by decide)
  have arms : Charges ["case".toList, "catch".toList] ['c', 'a'] :=
    charges_letters 0 1 (by decide) (by decide) (by decide)
  have elses : Charges ["elif".toList, "else if".toList] ['e', 'l'] :=
    charges_letters 0 1 (by decide) (by decide) (by decide)
  have switches : Charges ["switch".toList] ['s', 't'] :=
    charges_letters 0 3 (by decide) (by decide) (by decide)
  exact ifs.append (fors.append (loops.append (arms.append (elses.append (switches.append
    ((charges_pair '&').append (charges_pair '|')))))))

/-- The branching points of a line are at most half as many as its characters in lower case. -/
theorem lineBranches_le (line : String) : 2 * lineBranches line ≤ (lower line).toList.length := by
  have bound := charges_grouped.le_length (by decide) (lowerChars line.toList)
  rw [List.map_map] at bound
  -- The words are counted in another order than the one in which they are grouped.
  have rearranged : branchWords.Perm ["if", "for", "while", "when", "case", "catch", "elif",
      "else if", "switch", "&&", "||"] := by decide
  rw [lineBranches, toList_lower, total_perm (rearranged.map _)]
  exact bound

theorem branches_le (lines : List String) :
    2 * branches lines ≤ total (lines.map fun line => (lower line).toList.length) := by
  induction lines with
  | nil => exact Nat.zero_le _
  | cons line lines ih =>
    have here := lineBranches_le line
    rw [branches] at ih ⊢
    rw [List.map_cons, List.map_cons, total_cons, total_cons, Nat.mul_add]
    exact Nat.add_le_add here ih

/-! ## Numbers of 64 bits -/

/-- The product, or the limit on its side of the range. -/
def saturatingMul (value factor : Int64) : Int64 :=
  Int64.ofIntClamp (value.toInt * factor.toInt)

/-- The number in the range that is nearest to the value. -/
def clamp (value least greatest : Int64) : Int64 :=
  if value < least then least else if greatest < value then greatest else value

/-- The lowest eight bits. -/
def lowByte (value : Int64) : UInt8 :=
  value.toUInt64.toUInt8

theorem toInt_saturatingMul (value factor : Int64) :
    (saturatingMul value factor).toInt =
      max (-9223372036854775808) (min 9223372036854775807 (value.toInt * factor.toInt)) := by
  have least : Int64.minValue.toInt = -9223372036854775808 := by decide
  have greatest : Int64.maxValue.toInt = 9223372036854775807 := by decide
  unfold saturatingMul Int64.ofIntClamp
  split
  · split
    · rw [Int64.toInt_ofIntLE]
      omega
    · omega
  · omega

theorem toInt_clamp {least greatest : Int64} (ordered : least ≤ greatest) (value : Int64) :
    (clamp value least greatest).toInt = max least.toInt (min greatest.toInt value.toInt) := by
  rw [Int64.le_iff_toInt_le] at ordered
  unfold clamp
  simp only [Int64.lt_iff_toInt_lt]
  split
  · omega
  · split <;> omega

/-- A number that is not negative can be taken away from another one without any overflow. -/
theorem toInt_sub_of_nonneg {value other : Int64} (positive : 0 ≤ value.toInt)
    (nonneg : 0 ≤ other.toInt) : (value - other).toInt = value.toInt - other.toInt := by
  have below := value.toInt_lt
  have bounded := other.toInt_lt
  rw [Int64.toInt_sub]
  exact Int.bmod_eq_of_le (by omega) (by omega)

theorem toNat_lowByte {value : Int64} (nonneg : 0 ≤ value.toInt) (small : value.toInt < 256) :
    ((lowByte value).toNat : Int) = value.toInt := by
  have whole : value.toUInt64.toNat = value.toInt.toNat :=
    Int64.toNat_toUInt64_of_le (Int64.le_iff_toInt_le.mpr nonneg)
  rw [lowByte, UInt64.toNat_toUInt8, whole]
  omega

/-- The branching points of lines are at most half as many as the characters of the lines in lower
case.  As long as there are fewer than 2⁶³ of these, the score for the branching points is computed
in numbers of 64 bits.  The number of branching points is one of them, the difference does not
overflow, and the number between 0 and 100 that is nearest to it fits into a byte. -/
theorem branching_fits (lines : List String) :
    let characters := total (lines.map fun line => (lower line).toList.length)
    let count := Int64.ofNat (branches lines)
    let taken := saturatingMul count 6
    let score := clamp (100 - taken) 0 100
    2 * branches lines ≤ characters ∧
      (characters < 9223372036854775808 →
        0 ≤ count ∧ count.toInt = branches lines ∧
          taken.toInt = min 9223372036854775807 (6 * (branches lines : Int)) ∧
          (100 - taken).toInt = 100 - taken.toInt ∧
          ((lowByte score).toNat : Int) = score.toInt ∧
          (Metric.complexity.evaluate lines).score = lowByte score) := by
  intro characters count taken score
  have half : 2 * branches lines ≤ characters := branches_le lines
  refine ⟨half, fun fits => ?_⟩
  have hundred : (100 : Int64).toInt = 100 := by decide
  have counted : count.toInt = branches lines := Int64.toInt_ofNat_of_lt (by omega)
  have product : taken.toInt = min 9223372036854775807 (6 * (branches lines : Int)) := by
    have six : (6 : Int64).toInt = 6 := by decide
    rw [toInt_saturatingMul, counted, six]
    omega
  have difference : (100 - taken).toInt = 100 - taken.toInt := by
    rw [toInt_sub_of_nonneg (by omega) (by omega), hundred]
  have clamped : score.toInt = max 0 (min 100 (100 - taken.toInt)) := by
    rw [toInt_clamp (by decide), difference, hundred]
    rfl
  have narrowed : ((lowByte score).toNat : Int) = score.toInt :=
    toNat_lowByte (by omega) (by omega)
  refine ⟨?_, counted, product, difference, narrowed, ?_⟩
  · rw [Int64.le_iff_toInt_le, counted]
    exact Int.natCast_nonneg _
  · have result := toNat_complexityScore (branches lines)
    apply UInt8.toNat_inj.mp
    apply Int.natCast_inj.mp
    rw [narrowed, clamped, product]
    refine result.trans ?_
    omega

/-- Three words share six characters, so that one of two is the best that a line can do. -/
theorem branching_fits_elifor :
    total (["elIFor"].map fun line => (lower line).toList.length) = 6 ∧
      branches ["elIFor"] = 3 ∧
      (Metric.complexity.evaluate ["elIFor"]).score =
        lowByte (clamp (100 - saturatingMul (Int64.ofNat (branches ["elIFor"])) 6) 0 100) := by
  have length : total (["elIFor"].map fun line => (lower line).toList.length) = 6 := by
    decide
  have fits : total (["elIFor"].map fun line => (lower line).toList.length) <
      9223372036854775808 := by
    rw [length]
    decide
  have facts := (branching_fits ["elIFor"]).2 fits
  exact ⟨length, by decide, facts.2.2.2.2.2⟩

end Metric
end CodeAssistant
