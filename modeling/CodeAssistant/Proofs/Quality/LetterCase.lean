import CodeAssistant.Proofs.Quality.Invariance
import CodeAssistant.Proofs.Text.LetterCase

namespace CodeAssistant

open Text

/-!
# Scores do not depend on letter case

Words are looked for in the lower case of a line, and copies are compared in lower case.  Whether a
line is long enough to be a copy is decided on the line as it stands, but small letters do not make
it longer or shorter.  Hence the four counts, and with them the report, are the same for code in
small letters (`ofRequest_inSmallLetters`), in whatever scripts the rest of it is written.
-/

namespace Metric

theorem lineBranches_inSmallLetters (line : String) :
    lineBranches (inSmallLetters line) = lineBranches line := by
  rw [lineBranches, toList_inSmallLetters, lowerChars_map_toLower, lineBranches]

theorem isRisky_inSmallLetters (line : String) :
    isRisky (inSmallLetters line) = isRisky line := by
  rw [isRisky, toList_inSmallLetters, lowerChars_map_toLower, isRisky]

theorem isLong_inSmallLetters (line : String) : isLong (inSmallLetters line) = isLong line := by
  rw [isLong, toList_inSmallLetters, List.length_map, isLong]

theorem lower_inSmallLetters (line : String) : lower (inSmallLetters line) = lower line := by
  rw [lower, toList_inSmallLetters, lowerChars_map_toLower, lower]

theorem branches_inSmallLetters (lines : List String) :
    branches (lines.map inSmallLetters) = branches lines := by
  have same : lineBranches ∘ inSmallLetters = lineBranches := by
    funext line
    rw [Function.comp_apply, lineBranches_inSmallLetters]
  rw [branches, List.map_map, same, branches]

theorem riskyLines_inSmallLetters (lines : List String) :
    riskyLines (lines.map inSmallLetters) = riskyLines lines := by
  have same : isRisky ∘ inSmallLetters = isRisky := by
    funext line
    rw [Function.comp_apply, isRisky_inSmallLetters]
  rw [riskyLines, List.countP_map, same, riskyLines]

theorem copies_inSmallLetters (lines : List String) :
    copies (lines.map inSmallLetters) = copies lines := by
  have long : isLong ∘ inSmallLetters = isLong := by
    funext line
    rw [Function.comp_apply, isLong_inSmallLetters]
  have same : lower ∘ inSmallLetters = lower := by
    funext line
    rw [Function.comp_apply, lower_inSmallLetters]
  rw [copies, List.filter_map, long, List.map_map, same, copies]

theorem evaluate_inSmallLetters (lines : List String) :
    evaluate (lines.map inSmallLetters) = evaluate lines := by
  apply evaluate_congr
  · exact branches_inSmallLetters lines
  · exact riskyLines_inSmallLetters lines
  · exact copies_inSmallLetters lines
  · exact List.length_map inSmallLetters

end Metric

namespace QualityReport

theorem blank_inSmallLetters {code : String} :
    (∀ c ∈ (inSmallLetters code).toList, isBlank c = true) ↔
      ∀ c ∈ code.toList, isBlank c = true := by
  rw [toList_inSmallLetters, List.forall_mem_map]
  simp only [isBlank_toLower]

/-- Code may be put into small letters without any change to its report. -/
theorem ofRequest_inSmallLetters (code : String) (language : Option String) :
    ofRequest ⟨inSmallLetters code, language⟩ = ofRequest ⟨code, language⟩ := by
  by_cases blank : ∀ c ∈ code.toList, isBlank c = true
  · rw [ofRequest_of_blank blank, ofRequest_of_blank (blank_inSmallLetters.mpr blank)]
  · have content := fun still => blank (blank_inSmallLetters.mp still)
    rw [ofRequest_of_not_blank blank, ofRequest_of_not_blank content,
      significantLines_inSmallLetters]
    exact ofLines_congr (Metric.evaluate_inSmallLetters _) language

/-- Texts that differ only in the case of ASCII letters have the same report. -/
theorem ofRequest_of_equalUpToCase {first second : String} (same : EqualUpToCase first second)
    (language : Option String) :
    ofRequest ⟨first, language⟩ = ofRequest ⟨second, language⟩ := by
  rw [← ofRequest_inSmallLetters first, same.inSmallLetters_eq, ofRequest_inSmallLetters]

/-- The first sigma ends a word and the second does not, and ASCII letters of either case decide
both. -/
theorem ofRequest_mixed_scripts :
    EqualUpToCase "IF Todo aΣ\nIf İx && XΣ.Y" "if tOdo AΣ\niF İX && xΣ.y" ∧
      ofRequest ⟨"IF Todo aΣ\nIf İx && XΣ.Y", some "python"⟩ =
        ofRequest ⟨"if tOdo AΣ\niF İX && xΣ.y", some "python"⟩ := by
  have same : EqualUpToCase "IF Todo aΣ\nIf İx && XΣ.Y" "if tOdo AΣ\niF İX && xΣ.y" := by
    decide +kernel
  exact ⟨same, ofRequest_of_equalUpToCase same (some "python")⟩

end QualityReport
end CodeAssistant
