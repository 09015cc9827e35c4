import CodeAssistant.Proofs.Number.HalfEven
import CodeAssistant.Proofs.Quality.Acceptance
import Mathlib.Algebra.Order.BigOperators.Group.List

namespace CodeAssistant

/-!
# Reports are consistent

Every report that can be made is either the one rejection or a full set of results that fit each
other: each letter is the grade of its score, the final score is the mean, and the suggestions
repeat the sentences of the weak metrics.  `QualityReport.IsConsistent` says this of a report
without reference to the way in which it is computed, and `ofRequest_rejected_or_consistent` says it
of all reports.

The size of the code alone is worth forty points, however long it is.  A mean is therefore at least
ten, and a final score of zero occurs in rejections only.
-/

namespace Grade

/-- The grade belongs to the greatest threshold that the score reaches.  A score that reaches none
has an `F`. -/
def IsReachedBy (grade : Grade) (score : Int) : Prop :=
  (∃ least, (least, grade) ∈ thresholds ∧ least ≤ score ∧
    ∀ entry ∈ thresholds, entry.1 ≤ score → entry.1 ≤ least) ∨
  (grade = .f ∧ ∀ entry ∈ thresholds, score < entry.1)

theorem thresholds_descending : thresholds.Pairwise fun first second => second.1 < first.1 := by
  decide

/-- The thresholds are tried from the highest, so the first one reached is the greatest. -/
theorem isReachedBy_ofScore (score : Int) : IsReachedBy (ofScore score) score := by
  unfold ofScore
  cases found : thresholds.find? (fun entry => entry.1 ≤ score) with
  | none =>
    have missed := List.find?_eq_none.mp found
    refine Or.inr ⟨rfl, fun entry member => ?_⟩
    simpa using missed entry member
  | some entry =>
    obtain ⟨reached, before, after, split, missed⟩ := List.find?_eq_some_iff_append.mp found
    have order := thresholds_descending
    rw [split, List.pairwise_append, List.pairwise_cons] at order
    refine Or.inl ⟨entry.1, List.mem_of_find?_eq_some found, by simpa using reached, ?_⟩
    intro other member below
    rw [split, List.mem_append, List.mem_cons] at member
    rcases member with earlier | same | later
    · have above : ¬other.1 ≤ score := by simpa using missed other earlier
      exact absurd below above
    · rw [same]
    · exact le_of_lt (order.2.1.1 other later)

end Grade

namespace Metric

/-! ## Bounds of the scores -/

theorem toNat_clampScore_le (value : Int) : (clampScore value).toNat ≤ 100 := by
  rw [toNat_clampScore]
  exact Nat.min_le_left _ _

theorem toNat_sizeScore (count : Nat) :
    40 ≤ (sizeScore count).toNat ∧ (sizeScore count).toNat ≤ 100 := by
  unfold sizeScore
  split_ifs
  · decide
  · decide
  · decide
  · rw [toNat_clampScore]
    omega

theorem toNat_score_le (lines : List String) (metric : Metric) :
    (score lines metric).toNat ≤ 100 := by
  cases metric with
  | complexity => exact toNat_clampScore_le _
  | defectDensity => exact toNat_clampScore_le _
  | duplication => exact toNat_clampScore_le _
  | size => exact (toNat_sizeScore lines.length).2

end Metric

namespace QualityReport

open Text

/-! ## The mean -/

/-- The scores of some metrics. -/
def scores (metrics : List MetricResult) : List Nat :=
  metrics.map fun metric => metric.score.toNat

theorem total_eq_sum (counts : List Nat) : total counts = counts.sum := rfl

/-- The mean of some scores is the rounded exact mean: it is not clamped. -/
theorem toNat_meanScore {metrics : List MetricResult} (some : metrics ≠ [])
    (bounded : ∀ score ∈ scores metrics, score ≤ 100) :
    ((meanScore metrics).toNat : ℤ) =
      nearestInt ((scores metrics).sum : ℕ) metrics.length := by
  have positive : 0 < metrics.length := List.length_pos_iff.mpr some
  have sum : (scores metrics).sum ≤ metrics.length * 100 := by
    have each := List.sum_le_card_nsmul (scores metrics) 100 bounded
    rwa [scores, List.length_map, nsmul_eq_mul] at each
  have low : 0 ≤ nearestInt ((scores metrics).sum : ℕ) metrics.length :=
    le_nearestInt positive (by omega)
  have high : nearestInt ((scores metrics).sum : ℕ) metrics.length ≤ 100 :=
    nearestInt_le positive (by exact_mod_cast sum)
  rw [meanScore, if_neg (by simpa using some), total_eq_sum, toNat_clampScore, ← scores]
  omega

theorem toNat_meanScore_le (metrics : List MetricResult) : (meanScore metrics).toNat ≤ 100 := by
  unfold meanScore
  split
  · decide
  · exact Metric.toNat_clampScore_le _

/-- The exact mean of the scores of a report. -/
def exactMean (report : QualityReport) : ℚ :=
  (scores report.metrics).sum / report.metrics.length

/-! ## The parts of a report -/

/-- The sentences of the metrics that score less than eighty. -/
def weakExplanations (report : QualityReport) : List String :=
  (report.metrics.filter fun metric => metric.score.toNat < 80).map MetricResult.explanation

/-- How acceptable code is called: by its language, if that is given. -/
def languageLabel : Option String → String
  | none => "Code"
  | some language => if language.toList.all isBlank then "Code" else trim language

/-- A report whose parts fit each other and the request. -/
structure IsConsistent (request : QualityRequest) (report : QualityReport) : Prop where
  content : ∃ c ∈ request.code.toList, isBlank c = false
  ok : report.ok = true
  metrics : report.metrics = [.complexity, .defectDensity, .duplication, .size].map
    (Metric.evaluate (significantLines request.code))
  letters : ∀ metric ∈ report.metrics,
    metric.score.toNat ≤ 100 ∧ metric.letter = .ofScore metric.score.toNat
  mean : IsNearestEven (exactMean report) report.finalScore.toNat
  least : 10 ≤ report.finalScore.toNat
  greatest : report.finalScore.toNat ≤ 100
  grade : report.finalGrade = .ofScore report.finalScore.toNat
  suggestions : report.suggestions =
    if weakExplanations report = [] then
      [languageLabel request.language ++ " quality is within acceptable range."]
    else weakExplanations report

theorem subject_eq_languageLabel (language : Option String) :
    subject language = languageLabel language := by
  cases language with
  | none => rfl
  | some language =>
    have same : trim language = "" ↔ language.toList.all isBlank = true := by
      rw [trim_eq_empty_iff, List.all_eq_true]
    by_cases blank : trim language = ""
    · rw [languageLabel, if_pos (same.mp blank)]
      simp [subject, nonBlank?, blank]
    · rw [languageLabel, if_neg (fun all => blank (same.mpr all))]
      simp [subject, nonBlank?, blank]

theorem suggestionsFor_eq (report : QualityReport) (language : Option String) :
    suggestionsFor report.metrics language =
      if weakExplanations report = [] then
        [languageLabel language ++ " quality is within acceptable range."]
      else weakExplanations report := by
  have same : (report.metrics.filter fun metric => metric.score < suggestionBound).map
      MetricResult.explanation = weakExplanations report := by
    simp only [weakExplanations, UInt8.lt_iff_toNat_lt]
    rfl
  unfold suggestionsFor
  rw [same, subject_eq_languageLabel]
  cases weakExplanations report with
  | nil => rfl
  | cons first rest => rfl

/-! ## Reports on scored code -/

section
variable (lines : List String) (language : Option String)

theorem ok_ofLines : (ofLines lines language).ok = true := by
  rw [ofLines]

theorem metrics_ofLines :
    (ofLines lines language).metrics =
      [.complexity, .defectDensity, .duplication, .size].map (Metric.evaluate lines) := by
  rw [ofLines, Metric.all]

theorem finalScore_ofLines :
    (ofLines lines language).finalScore = meanScore (ofLines lines language).metrics := by
  rw [ofLines]

theorem finalGrade_ofLines :
    (ofLines lines language).finalGrade =
      .ofScore (ofLines lines language).finalScore.toNat := by
  rw [ofLines]

theorem suggestions_ofLines :
    (ofLines lines language).suggestions =
      suggestionsFor (ofLines lines language).metrics language := by
  rw [ofLines]

theorem letters_ofLines :
    ∀ metric ∈ (ofLines lines language).metrics,
      metric.score.toNat ≤ 100 ∧ metric.letter = .ofScore metric.score.toNat := by
  intro metric member
  rw [metrics_ofLines] at member
  obtain ⟨kind, _, result⟩ := List.mem_map.mp member
  subst result
  exact ⟨Metric.toNat_score_le lines kind, rfl⟩

theorem length_metrics_ofLines : (ofLines lines language).metrics.length = 4 := by
  rw [metrics_ofLines, List.length_map]
  rfl

/-- The last of the scores, for the size, is never below forty. -/
theorem forty_le_sum_scores : 40 ≤ (scores (ofLines lines language).metrics).sum := by
  have size := (Metric.toNat_sizeScore lines.length).1
  have last : (Metric.sizeScore lines.length).toNat ∈ scores (ofLines lines language).metrics := by
    rw [metrics_ofLines]
    exact List.mem_map.mpr ⟨Metric.evaluate lines .size,
      List.mem_map.mpr ⟨.size, by decide, rfl⟩, rfl⟩
  exact size.trans (List.le_sum_of_mem last)

/-- The final score is the rounded exact mean of the four scores. -/
theorem toNat_finalScore_ofLines :
    ((ofLines lines language).finalScore.toNat : ℤ) =
      nearestInt ((scores (ofLines lines language).metrics).sum : ℕ) 4 := by
  have letters := letters_ofLines lines language
  have bounded : ∀ score ∈ scores (ofLines lines language).metrics, score ≤ 100 :=
    List.forall_mem_map.mpr fun metric member => (letters metric member).1
  have four := length_metrics_ofLines lines language
  have some : (ofLines lines language).metrics ≠ [] := by
    rw [← List.length_pos_iff, four]
    decide
  have mean := toNat_meanScore some bounded
  rw [four] at mean
  rw [finalScore_ofLines, mean]

theorem mean_ofLines :
    IsNearestEven (exactMean (ofLines lines language))
      (ofLines lines language).finalScore.toNat := by
  have nearest := isNearestEven_nearestInt
    ((scores (ofLines lines language).metrics).sum : ℕ) (q := 4) (by decide)
  rw [← toNat_finalScore_ofLines, Int.cast_natCast] at nearest
  rw [exactMean, length_metrics_ofLines]
  exact nearest

theorem ten_le_finalScore_ofLines : 10 ≤ (ofLines lines language).finalScore.toNat := by
  have sum := forty_le_sum_scores lines language
  have least : (10 : ℤ) ≤ nearestInt ((scores (ofLines lines language).metrics).sum : ℕ) 4 :=
    le_nearestInt (by decide) (Int.ofNat_le.mpr sum)
  rw [← toNat_finalScore_ofLines] at least
  omega

theorem finalScore_ofLines_le : (ofLines lines language).finalScore.toNat ≤ 100 := by
  rw [finalScore_ofLines]
  exact toNat_meanScore_le _

end

/-- The language is not used outside the suggestions. -/
theorem ofLines_with_suggestions (lines : List String) (language other : Option String) :
    { ofLines lines other with suggestions := (ofLines lines language).suggestions } =
      ofLines lines language := by
  rw [ofLines, ofLines]

theorem ofLines_of_same_label {lines : List String} {language other : Option String}
    (same : languageLabel other = languageLabel language) :
    ofLines lines other = ofLines lines language := by
  rw [← subject_eq_languageLabel, ← subject_eq_languageLabel] at same
  rw [ofLines, ofLines, suggestionsFor, suggestionsFor, same]

theorem isConsistent_ofLines {code : String} (language : Option String)
    (content : ∃ c ∈ code.toList, isBlank c = false) :
    IsConsistent ⟨code, language⟩ (ofLines (significantLines code) language) where
  content := content
  ok := ok_ofLines _ language
  metrics := metrics_ofLines _ language
  letters := letters_ofLines _ language
  mean := mean_ofLines _ language
  least := ten_le_finalScore_ofLines _ language
  greatest := finalScore_ofLines_le _ language
  grade := finalGrade_ofLines _ language
  suggestions := by
    rw [suggestions_ofLines, suggestionsFor_eq]

/-- Every report is the rejection of blank code or consistent.  The language is used in the sentence
of approval and nowhere else. -/
theorem ofRequest_rejected_or_consistent (request : QualityRequest) :
    (((∀ c ∈ request.code.toList, isBlank c = true) ∧
        ofRequest request = ⟨false, 0, .f, [], ["Error: Code cannot be empty"]⟩) ∨
      IsConsistent request (ofRequest request)) ∧
    (∀ score : Int, (Grade.ofScore score).IsReachedBy score) ∧
    ∀ other : Option String,
      { ofRequest ⟨request.code, other⟩ with suggestions := (ofRequest request).suggestions } =
          ofRequest request ∧
        (languageLabel other = languageLabel request.language →
          ofRequest ⟨request.code, other⟩ = ofRequest request) := by
  obtain ⟨code, language⟩ := request
  refine ⟨?_, Grade.isReachedBy_ofScore, fun other => ?_⟩
  · by_cases blank : ∀ c ∈ code.toList, isBlank c = true
    · exact Or.inl ⟨blank, ofRequest_of_blank blank⟩
    · have content : ∃ c ∈ code.toList, isBlank c = false := by simpa using blank
      rw [ofRequest_of_not_blank blank]
      exact Or.inr (isConsistent_ofLines language content)
  · by_cases blank : ∀ c ∈ code.toList, isBlank c = true
    · rw [ofRequest_of_blank blank, ofRequest_of_blank blank]
      exact ⟨rfl, fun _ => rfl⟩
    · rw [ofRequest_of_not_blank blank, ofRequest_of_not_blank blank]
      exact ⟨ofLines_with_suggestions _ language other, ofLines_of_same_label⟩

end QualityReport

end CodeAssistant
