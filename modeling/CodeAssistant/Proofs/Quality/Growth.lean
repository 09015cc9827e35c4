import CodeAssistant.Proofs.Quality.Branching
import CodeAssistant.Proofs.Text.Seams

namespace CodeAssistant
namespace Metric

open Text

/-!
# Growing code

Code that is put together from two texts has all branching points of both, and perhaps some more
where they meet (`branches_append_le`).  It does not matter where they meet: it may be within a
word, within a line or between the two characters of one line break.  So nothing that is added to a
text improves its score for complexity.
-/

theorem branchWords_lack_sigma :
    ∀ word ∈ branchWords, ∀ c ∈ word.toList, c ≠ 'σ' ∧ c ≠ 'ς' := by
  have checked : (branchWords.all fun word => word.toList.all fun c =>
      decide (c ≠ 'σ' ∧ c ≠ 'ς')) = true := by decide
  simpa only [List.all_eq_true, decide_eq_true_eq] using checked

theorem isSuperadditive_lineBranches :
    IsSuperadditive fun line => lineBranches (String.ofList line) := by
  have each : ∀ word ∈ branchWords,
      IsSuperadditive fun text => occurrences word.toList (lowerChars text) :=
    fun word member => isSuperadditive_occurrences_lowerChars (branchWords_lack_sigma word member)
  have whole := isSuperadditive_total each
  intro first second
  simpa only [lineBranches, String.toList_ofList] using whole first second

theorem branches_significantLines (code : String) :
    branches (significantLines code) =
      total ((significantChars code.toList).map fun line => lineBranches (String.ofList line)) := by
  rw [branches, significantLines, List.map_map]
  rfl

theorem branches_append_le (first second : String) :
    branches (significantLines first) + branches (significantLines second) ≤
      branches (significantLines (first ++ second)) := by
  simp only [branches_significantLines, String.toList_append]
  exact isSuperadditive_lineBranches.total_significantChars_append first.toList second.toList

theorem complexityScore_le {count count' : Nat} (fewer : count ≤ count') :
    complexityScore count' ≤ complexityScore count := by
  have score := toNat_complexityScore count
  have score' := toNat_complexityScore count'
  rw [UInt8.le_iff_toNat_le]
  omega

/-- Two texts together have at least the branching points of each, and so no better a score. -/
theorem evaluate_complexity_append (first second : String) :
    let lines := significantLines first
    let lines' := significantLines second
    let whole := significantLines (first ++ second)
    branches lines + branches lines' ≤ branches whole ∧
      (Metric.complexity.evaluate whole).score ≤ (Metric.complexity.evaluate lines).score ∧
      (Metric.complexity.evaluate whole).score ≤ (Metric.complexity.evaluate lines').score := by
  intro lines lines' whole
  have counts : branches lines + branches lines' ≤ branches whole :=
    branches_append_le first second
  refine ⟨counts, ?_, ?_⟩
  · exact complexityScore_le (Nat.le_of_add_right_le counts)
  · exact complexityScore_le (Nat.le_of_add_left_le counts)

/-- Between the two signs of a pair, a cut loses a branching point. -/
example : branches (significantLines "if x &") + branches (significantLines "& y") = 1 ∧
    branches (significantLines ("if x &" ++ "& y")) = 2 := by
  decide +kernel

end Metric
end CodeAssistant
