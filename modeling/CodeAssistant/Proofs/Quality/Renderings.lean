import CodeAssistant.Proofs.Quality.Consistency
import CodeAssistant.Proofs.Text.Separation
import CodeAssistant.Quality.Rendering
import Mathlib.Data.List.Forall2

namespace CodeAssistant

/-!
# Renderings lose nothing

A report is determined by its plain text and by its Markdown (`rendering_eq_iff`).  Both are read
from left to right: each field is followed by a mark that cannot be part of it.  Names have the same
place in every report and need not be read, a score has digits only, a letter has no blank, and a
sentence neither ends its line nor its table cell.

What the suggestions say is not confined in this way, because a language may be called anything.
They are the last part of a report and need not be read either.  They repeat sentences of metrics,
or there is one of them, which has the same frame in every report.
-/

open Text

namespace Grade

theorem label_injective : Function.Injective label := by
  intro first second same
  have read := ofLabel?_label first
  rw [same, ofLabel?_label, Option.some.injEq] at read
  exact read.symm

theorem label_lacks (grade : Grade) : ' ' ∉ grade.label.toList ∧ '*' ∉ grade.label.toList := by
  cases grade <;> decide

end Grade

namespace Metric

/-- No sentence on a metric has a line break or a bar in it. -/
theorem fitsCell_explanation (lines : List String) (metric : Metric) :
    FitsCell (explanation lines metric) := by
  cases metric with
  | complexity =>
    apply FitsCell.append
    · exact .around _ (by decide +kernel) (by decide +kernel)
    · exact .ite (by decide +kernel) (by decide +kernel)
  | defectDensity =>
    apply FitsCell.ite
    · exact .around _ (by decide +kernel) (by decide +kernel)
    · exact .around _ (by decide +kernel) (by decide +kernel)
  | duplication =>
    apply FitsCell.ite
    · decide +kernel
    · exact .around _ (by decide +kernel) (by decide +kernel)
  | size =>
    apply FitsCell.append
    · exact .around _ (by decide +kernel) (by decide +kernel)
    · exact .ite (by decide +kernel) (by decide +kernel)

end Metric

namespace QualityReport

/-! ## Results -/

/-- The results are for the same dimension, and their sentences fit in a table cell. -/
structure SameDimension (first second : MetricResult) : Prop where
  name : first.name = second.name
  firstFits : FitsCell first.explanation
  secondFits : FitsCell second.explanation

theorem SameDimension.ext {first second : MetricResult} (alike : SameDimension first second)
    (scores : first.score.toNat = second.score.toNat)
    (letters : first.letter.label = second.letter.label)
    (sentences : first.explanation = second.explanation) : first = second := by
  rw [MetricResult.mk.injEq]
  exact ⟨alike.name, UInt8.toNat_inj.mp scores, Grade.label_injective letters, sentences⟩

theorem sameDimension_evaluate (first second : List String) (metric : Metric) :
    SameDimension (metric.evaluate first) (metric.evaluate second) where
  name := rfl
  firstFits := Metric.fitsCell_explanation first metric
  secondFits := Metric.fitsCell_explanation second metric

/-- What is written for a result can be read back, whatever comes after it. -/
def IsReadBack (write : MetricResult → String) : Prop :=
  ∀ {first second : MetricResult} {r s : String}, SameDimension first second →
    write first ++ r = write second ++ s → first = second ∧ r = s

theorem length_decimal_score (score : UInt8) : (decimal score.toNat).toList.length ≤ 3 := by
  rw [toList_decimal, Nat.length_toDigits_le_iff (by decide) (by decide)]
  exact Nat.lt_trans score.toNat_lt (by decide)

theorem isReadBack_metricLine : IsReadBack metricLine := by
  intro first second r s alike same
  unfold metricLine at same
  simp only [String.append_assoc, alike.name, String.append_right_inj] at same
  obtain ⟨scores, same⟩ := decimalPadded_append_inj (by decide) (length_decimal_score _)
    (length_decimal_score _) same
  rw [String.append_right_inj] at same
  obtain ⟨letters, same⟩ := append_stop_inj ' ' (by decide)
    first.letter.label_lacks.1 second.letter.label_lacks.1 same
  obtain ⟨sentences, rest⟩ := append_stop_inj '\n' (by decide)
    alike.firstFits.not_newline alike.secondFits.not_newline same
  exact ⟨alike.ext scores letters sentences, rest⟩

theorem escapeBars_of_fitsCell {s : String} (fits : FitsCell s) : escapeBars s = s := by
  rw [escapeBars, replaceChar_of_lacks fits.not_bar, String.ofList_toList]

/-- Sentences have blanks, so it is the bar that ends the cell. -/
theorem append_bar (cell rest : String) :
    cell ++ (" |\n" ++ rest) = cell ++ " " ++ ("|\n" ++ rest) := by
  have bar : " |\n" = " " ++ "|\n" := by decide
  rw [bar, String.append_assoc, String.append_assoc]

theorem isReadBack_metricRow : IsReadBack metricRow := by
  intro first second r s alike same
  unfold metricRow at same
  simp only [String.append_assoc, alike.name, escapeBars_of_fitsCell alike.firstFits,
    escapeBars_of_fitsCell alike.secondFits, String.append_right_inj] at same
  obtain ⟨scores, same⟩ := append_stop_inj ' ' (by decide) (decimal_lacks rfl _)
    (decimal_lacks rfl _) same
  obtain ⟨letters, same⟩ := append_stop_inj ' ' (by decide)
    first.letter.label_lacks.1 second.letter.label_lacks.1 same
  rw [append_bar, append_bar] at same
  obtain ⟨cells, rest⟩ := append_stop_inj '|' (by decide)
    (alike.firstFits.append (by decide)).not_bar (alike.secondFits.append (by decide)).not_bar same
  rw [String.append_left_inj] at cells
  exact ⟨alike.ext (decimal_injective scores) letters cells, rest⟩

/-- A list of results can be read back one by one. -/
theorem join_append_inj {write : MetricResult → String} (readBack : IsReadBack write)
    {first second : List MetricResult} (alike : List.Forall₂ SameDimension first second)
    {r s : String}
    (same : String.join (first.map write) ++ r = String.join (second.map write) ++ s) :
    first = second ∧ r = s := by
  induction alike with
  | nil =>
    rw [List.map_nil, String.join_nil, String.empty_append, String.empty_append] at same
    exact ⟨rfl, same⟩
  | cons alike _ ih =>
    rw [List.map_cons, List.map_cons, String.join_cons, String.join_cons, String.append_assoc,
      String.append_assoc] at same
    obtain ⟨head, tail⟩ := readBack alike same
    obtain ⟨rest, follows⟩ := ih tail
    exact ⟨by rw [head, rest], follows⟩

theorem sameDimension_metrics (first second : List String) (language other : Option String) :
    List.Forall₂ SameDimension (ofLines first language).metrics (ofLines second other).metrics := by
  rw [ofLines, ofLines, List.forall₂_map_left_iff, List.forall₂_map_right_iff, List.forall₂_same]
  intro metric member
  exact sameDimension_evaluate first second metric

theorem metricTable_ofLines (lines : List String) (language : Option String) :
    metricTable (ofLines lines language).metrics = "### Metrics\n" ++
      ("| Metric | Score | Grade | Notes |\n|---|---|---|---|\n" ++
        String.join ((ofLines lines language).metrics.map metricRow)) ++ "\n" := by
  rw [metricTable, if_neg]
  rw [metrics_ofLines]
  exact Bool.false_ne_true

/-! ## Suggestions -/

theorem bulletLines_singleton (mark item : String) :
    bulletLines mark [item] = mark ++ item ++ "\n" := by
  rw [bulletLines, List.map_singleton, String.join_cons, String.join_nil, String.append_empty]

theorem suggestionsFor_ne_nil (metrics : List MetricResult) (language : Option String) :
    suggestionsFor metrics language ≠ [] := by
  unfold suggestionsFor
  split
  · exact List.cons_ne_nil _ _
  · assumption

theorem headedList_of_ne_nil {items : List String} (filled : items ≠ []) (title remark : String) :
    headedList title items remark =
      "### " ++ (title ++ ("\n" ++ (bulletLines "- " items ++ "\n"))) := by
  rw [headedList, if_neg (by rwa [List.isEmpty_iff])]
  simp only [String.append_assoc]

theorem headedList_suggestions (lines : List String) (language : Option String)
    (title remark : String) :
    headedList title (ofLines lines language).suggestions remark = "### " ++ (title ++ ("\n" ++
      (bulletLines "- " (ofLines lines language).suggestions ++ "\n"))) := by
  apply headedList_of_ne_nil
  rw [suggestions_ofLines]
  exact suggestionsFor_ne_nil _ language

/-- Suggestions on the same results can be read back.  Either both lists are the sentences of the
weak ones, or both have a single item. -/
theorem suggestionsFor_inj {mark : String} {metrics : List MetricResult}
    {language other : Option String}
    (same : bulletLines mark (suggestionsFor metrics language) =
      bulletLines mark (suggestionsFor metrics other)) :
    suggestionsFor metrics language = suggestionsFor metrics other := by
  unfold suggestionsFor at *
  cases weak : (metrics.filter fun m => m.score < suggestionBound).map MetricResult.explanation with
  | nil =>
    simp only [weak, bulletLines_singleton, String.append_left_inj, String.append_right_inj] at same
    simp only [same]
  | cons first rest => rfl

/-! ## Reports -/

section
variable {first second : List String} {language other : Option String}

/-- Once the results are read, only the suggestions are left to be read. -/
theorem ofLines_ext {mark : String}
    (metrics : (ofLines first language).metrics = (ofLines second other).metrics)
    (suggestions : bulletLines mark (ofLines first language).suggestions =
      bulletLines mark (ofLines second other).suggestions) :
    ofLines first language = ofLines second other := by
  have scores : (ofLines first language).finalScore = (ofLines second other).finalScore := by
    rw [finalScore_ofLines, metrics, finalScore_ofLines]
  rw [suggestions_ofLines, metrics, suggestions_ofLines] at suggestions
  rw [QualityReport.mk.injEq]
  refine ⟨rfl, scores, ?_, metrics, ?_⟩
  · rw [finalGrade_ofLines, scores, finalGrade_ofLines]
  · rw [suggestions_ofLines, metrics, suggestionsFor_inj suggestions, suggestions_ofLines]

theorem ofLines_of_toText (same : (ofLines first language).toText = (ofLines second other).toText) :
    ofLines first language = ofLines second other := by
  unfold toText at same
  simp only [ok_ofLines, if_true, String.append_assoc, String.append_right_inj] at same
  obtain ⟨_, same⟩ := append_stop_inj ' ' (by decide) (Grade.label_lacks _).1
    (Grade.label_lacks _).1 same
  obtain ⟨_, same⟩ := append_stop_inj '/' (by decide) (decimal_lacks rfl _)
    (decimal_lacks rfl _) same
  obtain ⟨metrics, same⟩ := join_append_inj isReadBack_metricLine
    (sameDimension_metrics first second language other) same
  rw [String.append_right_inj] at same
  exact ofLines_ext metrics same

theorem ofLines_of_toMarkdown
    (same : (ofLines first language).toMarkdown = (ofLines second other).toMarkdown) :
    ofLines first language = ofLines second other := by
  unfold toMarkdown at same
  simp only [ok_ofLines, if_true, metricTable_ofLines, headedList_suggestions,
    String.append_assoc, String.append_right_inj] at same
  obtain ⟨_, same⟩ := append_stop_inj '*' (by decide) (Grade.label_lacks _).2
    (Grade.label_lacks _).2 same
  obtain ⟨_, same⟩ := append_stop_inj '/' (by decide) (decimal_lacks rfl _)
    (decimal_lacks rfl _) same
  simp only [String.append_right_inj] at same
  obtain ⟨metrics, same⟩ := join_append_inj isReadBack_metricRow
    (sameDimension_metrics first second language other) same
  simp only [String.append_right_inj, String.append_left_inj] at same
  exact ofLines_ext metrics same

end

/-! ### Rejections -/

theorem toText_rejected (missing : MissingField) :
    (rejected missing).toText = "  - " ++ (missing.message ++ "\n") := by
  unfold toText
  rw [rejected, if_neg Bool.false_ne_true, bulletLines_singleton, String.append_assoc]

theorem toMarkdown_rejected (missing : MissingField) :
    (rejected missing).toMarkdown = "# Atum Quality Report\n\n" ++
      ("### " ++ ("Errors" ++ ("\n" ++ (bulletLines "- " [missing.message] ++ "\n")))) := by
  unfold toMarkdown
  rw [rejected, if_neg Bool.false_ne_true, headedList_of_ne_nil (List.cons_ne_nil _ _)]

/-- A report on scored code does not look like a rejection: its first line is different. -/
theorem toText_ofLines_ne (lines : List String) (language : Option String)
    (missing : MissingField) : (ofLines lines language).toText ≠ (rejected missing).toText := by
  rw [toText_rejected]
  unfold toText
  simp only [ok_ofLines, if_true, String.append_assoc]
  exact append_ne_append (c := 'F') (d := ' ') (by decide) (by decide) (by decide)

theorem toMarkdown_ofLines_ne (lines : List String) (language : Option String)
    (missing : MissingField) :
    (ofLines lines language).toMarkdown ≠ (rejected missing).toMarkdown := by
  rw [toMarkdown_rejected]
  unfold toMarkdown
  simp only [ok_ofLines, if_true, String.append_assoc, ne_eq, String.append_right_inj]
  exact append_ne_append (c := '-') (d := '#') (by decide) (by decide) (by decide)

/-! ### All reports -/

theorem eq_rejected_or_ofLines (request : QualityRequest) :
    ofRequest request = rejected .code ∨
      ∃ lines, ofRequest request = ofLines lines request.language := by
  by_cases blank : ∀ c ∈ request.code.toList, isBlank c = true
  · exact Or.inl (ofRequest_of_blank blank)
  · exact Or.inr ⟨_, ofRequest_of_not_blank blank⟩

/-- A rendering tells all reports apart if it tells scored reports from each other and from the
rejection. -/
theorem render_eq_iff {render : QualityReport → String}
    (scored : ∀ {first second : List String} {language other : Option String},
      render (ofLines first language) = render (ofLines second other) →
        ofLines first language = ofLines second other)
    (apart : ∀ (lines : List String) (language : Option String),
      render (ofLines lines language) ≠ render (rejected .code))
    (first second : QualityRequest) :
    render (ofRequest first) = render (ofRequest second) ↔ ofRequest first = ofRequest second := by
  refine ⟨fun same => ?_, congrArg render⟩
  rcases eq_rejected_or_ofLines first with refused | ⟨lines, made⟩
  · rcases eq_rejected_or_ofLines second with alsoRefused | ⟨others, alsoMade⟩
    · rw [refused, alsoRefused]
    · rw [refused, alsoMade] at same
      exact absurd same.symm (apart others _)
  · rcases eq_rejected_or_ofLines second with alsoRefused | ⟨others, alsoMade⟩
    · rw [made, alsoRefused] at same
      exact absurd same (apart lines _)
    · rw [made, alsoMade] at same
      rw [made, alsoMade, scored same]

/-- Reports with the same plain text are equal, and so are reports with the same Markdown. -/
theorem rendering_eq_iff (first second : QualityRequest) :
    ((ofRequest first).toText = (ofRequest second).toText ↔ ofRequest first = ofRequest second) ∧
      ((ofRequest first).toMarkdown = (ofRequest second).toMarkdown ↔
        ofRequest first = ofRequest second) := by
  constructor
  · exact render_eq_iff ofLines_of_toText
      (fun lines language => toText_ofLines_ne lines language .code) first second
  · exact render_eq_iff ofLines_of_toMarkdown
      (fun lines language => toMarkdown_ofLines_ne lines language .code) first second

end QualityReport
end CodeAssistant
