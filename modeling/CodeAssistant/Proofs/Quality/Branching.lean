import CodeAssistant.Proofs.Text.Occurrences
import CodeAssistant.Quality.Metric

namespace CodeAssistant
namespace Metric

open Text

/-!
# What branching points are

Branching points are counted by one search for each of eleven words, and the words overlap: `elif`
ends in `if`, and in `caselif` there are three of them.  The count is nevertheless a property of the
line that does not mention any search (`evaluate_complexity`).  Nine of the words are made of
letters.  None of them overlaps itself and none begins another, so each position counts for one of
them or for none.  The other two are pairs of equal signs, and count the pairs in runs of the sign.
-/

/-- The words made of letters that mark a branching point. -/
def letterWords : List String :=
  ["if", "for", "while", "case", "when", "catch", "elif", "else if", "switch"]

/-- The branching points in a text that is already in lower case. -/
def branchingPoints (lowered : List Char) : Nat :=
  (positions (letterWords.map String.toList) lowered).length +
    (pairsInRuns '&' lowered + pairsInRuns '|' lowered)

theorem isUnbordered_letterWords :
    ∀ word ∈ letterWords.map String.toList, IsUnbordered word := by
  have checked : ((letterWords.map String.toList).all fun word =>
      decide (IsUnbordered word)) = true := by decide
  simpa only [List.all_eq_true, decide_eq_true_eq] using checked

/-- No word begins another one. -/
theorem pairwise_letterWords :
    (letterWords.map String.toList).Pairwise fun word other =>
      ¬word <+: other ∧ ¬other <+: word := by
  decide

/-- A position is the beginning of one word at most. -/
theorem eq_of_stand {word other : String} (mem : word ∈ branchWords) (mem' : other ∈ branchWords)
    {text : List Char} (stands : word.toList <+: text) (stands' : other.toList <+: text) :
    word = other := by
  have apart : (branchWords.all fun word => branchWords.all fun other =>
      decide (word.toList <+: other.toList → word = other)) = true := by decide
  simp only [List.all_eq_true, decide_eq_true_eq] at apart
  rcases List.prefix_or_prefix_of_prefix stands stands' with shorter | shorter
  · exact apart word mem other mem' shorter
  · exact (apart other mem' word mem shorter).symm

theorem lineBranches_eq (line : String) :
    lineBranches line = branchingPoints (lower line).toList := by
  have split : branchWords = letterWords ++ ["&&", "||"] := rfl
  have letters := total_occurrences isUnbordered_letterWords pairwise_letterWords
    (lowerChars line.toList)
  have ands : occurrences "&&".toList (lowerChars line.toList) =
      pairsInRuns '&' (lowerChars line.toList) := occurrences_pair '&' _
  have ors : occurrences "||".toList (lowerChars line.toList) =
      pairsInRuns '|' (lowerChars line.toList) := occurrences_pair '|' _
  rw [List.map_map] at letters
  rw [lineBranches, split, List.map_append, total_append, List.map_cons, List.map_cons,
    List.map_nil, total_cons, total_cons, total_nil, ands, ors, Nat.add_zero, branchingPoints,
    toList_lower, ← letters]
  rfl

theorem branches_eq (lines : List String) :
    branches lines = total (lines.map fun line => branchingPoints (lower line).toList) := by
  have same : lineBranches = fun line => branchingPoints (lower line).toList :=
    funext lineBranches_eq
  rw [branches, same]

theorem toNat_complexityScore (count : Nat) :
    ((complexityScore count).toNat : Int) = max 0 (100 - 6 * (count : Int)) := by
  rw [complexityScore, toNat_clampScore]
  omega

/-- Advice is given from six branching points on. -/
theorem complexityScore_lt_adviceBound_iff (count : Nat) :
    complexityScore count < adviceBound ↔ 5 < count := by
  have bound : adviceBound.toNat = 70 := rfl
  have score := toNat_complexityScore count
  rw [UInt8.lt_iff_toNat_lt, bound]
  omega

theorem explanation_complexity (lines : List String) :
    explanation lines .complexity =
      "Cyclomatic complexity detected " ++ decimal (branches lines) ++ " branching points. " ++
        (if 5 < branches lines then "Consider refactoring into smaller functions."
        else "Structure looks manageable.") := by
  unfold explanation
  simp only [complexityScore_lt_adviceBound_iff]

/-- The report on branching gives the number of branching points, and takes six points for each of
them as long as there are any. -/
theorem evaluate_complexity (lines : List String) :
    let count := total (lines.map fun line =>
      let lowered := (lower line).toList
      (positions (letterWords.map String.toList) lowered).length +
        (total ((runs '&' lowered).map fun run => run.length / 2) +
          total ((runs '|' lowered).map fun run => run.length / 2)))
    let result := Metric.complexity.evaluate lines
    result.explanation = "Cyclomatic complexity detected " ++ decimal count ++
        " branching points. " ++ (if 5 < count then "Consider refactoring into smaller functions."
          else "Structure looks manageable.") ∧
      (result.score.toNat : Int) = max 0 (100 - 6 * (count : Int)) ∧
      ∀ word ∈ branchWords, ∀ other ∈ branchWords, ∀ (text : List Char) (i : Nat),
        word.toList <+: text.drop i → other.toList <+: text.drop i → word = other := by
  intro count result
  have counted : branches lines = count := branches_eq lines
  rw [← counted]
  refine ⟨explanation_complexity lines, toNat_complexityScore _, ?_⟩
  intro word mem other mem' text i stands stands'
  exact eq_of_stand mem mem' stands stands'

/-- In lower case the line holds `caselif`, where three words overlap, and runs of three, two and
five signs. -/
example : branches ["CASElif (a &&& b && c |||||"] = 7 := by decide +kernel

end Metric
end CodeAssistant
