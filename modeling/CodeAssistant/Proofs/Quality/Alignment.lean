import CodeAssistant.Proofs.Quality.ReportLines

namespace CodeAssistant

/-!
# Columns of the plain text

In the plain text of a report the lines of the metrics are laid out in columns.  Names are padded to
22 characters, which all of them fit, and scores to three.  The letter is not padded.  The sentence
behind it therefore starts at column 34 if the letter has a sign and at column 33 if it does not,
counted from zero.  The sentences of a report are aligned only if its letters agree in this
(`aligned_iff_letters`): a report on a few lines, whose size is worth an `A`, is out of line as soon
as something else in it is worth an `A+`.
-/

open Text

namespace Grade

/-- The letter has a plus or a minus behind it, and takes two characters. -/
def IsSigned (grade : Grade) : Prop :=
  grade.label.toList.length = 2

instance (grade : Grade) : Decidable grade.IsSigned :=
  inferInstanceAs (Decidable (_ = _))

theorem length_label (grade : Grade) :
    grade.label.toList.length = if grade.IsSigned then 2 else 1 := by
  cases grade <;> rfl

end Grade

namespace Metric

/-- There is room for every name in its column. -/
theorem length_title_le (metric : Metric) : metric.title.toList.length ≤ 22 := by
  cases metric <;> decide

end Metric

namespace QualityReport

/-- The rest of the line from the column on is the given text. -/
structure StartsAt (text : String) (column : Nat) (line : String) : Prop where
  within : column ≤ line.toList.length
  rest : line.toList.drop column = text.toList

/-- The lines of the metrics in the plain text of a report, which follow the first line. -/
def metricLines (report : QualityReport) : List String :=
  (newlineLines report.toText).tail.take report.metrics.length

/-- All sentences on metrics start at one column. -/
def IsAligned (report : QualityReport) : Prop :=
  ∃ column, List.Forall₂ (fun line metric => StartsAt metric.explanation column line)
    (metricLines report) report.metrics

/-- Where the sentence on a metric starts. -/
def explanationColumn (metric : MetricResult) : Nat :=
  if metric.letter.IsSigned then 34 else 33

/-! ## One line -/

theorem startsAt_append (before text : String) :
    StartsAt text before.toList.length (before ++ text) where
  within := by
    rw [String.toList_append, List.length_append]
    exact Nat.le_add_right _ _
  rest := by rw [String.toList_append, List.drop_left]

/-- A text cannot end a line from two different columns. -/
theorem StartsAt.unique {text line : String} {column other : Nat}
    (first : StartsAt text column line) (second : StartsAt text other line) : column = other := by
  have length := congrArg List.length (first.rest.trans second.rest.symm)
  have within := first.within
  have within' := second.within
  rw [List.length_drop, List.length_drop] at length
  omega

theorem length_padRight {width : Nat} {s : String} (fits : s.toList.length ≤ width) :
    (padRight width s).toList.length = width := by
  rw [padRight, String.toList_ofList, List.length_append, List.length_replicate]
  omega

/-- The columns of a line are as wide as they should be, apart from that of the letter. -/
theorem startsAt_explanationColumn {metric : MetricResult} (fits : metric.name.toList.length ≤ 22) :
    StartsAt metric.explanation (explanationColumn metric) (metricEntry metric) := by
  have width : explanationColumn metric =
      ("  " ++ padRight 22 metric.name ++ " " ++ decimalPadded ' ' 3 metric.score.toNat ++ "  " ++
        metric.letter.label ++ "  ").toList.length := by
    simp only [String.toList_append, List.length_append, length_padRight fits,
      length_decimalPadded ' ' (length_decimal_score _), Grade.length_label]
    unfold explanationColumn
    split <;> rfl
  rw [width]
  exact startsAt_append _ _

/-! ## All lines -/

/-- The lines that follow the first one are those of the metrics. -/
theorem HasSentences.metricLines_eq {report : QualityReport} (said : HasSentences report) :
    metricLines report = report.metrics.map metricEntry := by
  rw [metricLines, toText_of_ok said.ok, textLines, newlineLines_ofLines_append said.isLine_textHead,
    textHead, List.cons_append, List.tail_cons, List.take_left']
  exact List.length_map metricEntry

section
variable {report : QualityReport} (said : HasSentences report)
  (fits : ∀ metric ∈ report.metrics, metric.name.toList.length ≤ 22)

include said fits

theorem startsAt_metricLines :
    List.Forall₂ (fun line metric => StartsAt metric.explanation (explanationColumn metric) line)
      (metricLines report) report.metrics := by
  rw [said.metricLines_eq, List.forall₂_map_left_iff, List.forall₂_same]
  exact fun metric member => startsAt_explanationColumn (fits metric member)

/-- The sentences are aligned exactly if they all should start at the same column. -/
theorem isAligned_iff_columns :
    IsAligned report ↔ ∃ column, ∀ metric ∈ report.metrics, explanationColumn metric = column := by
  refine exists_congr fun column => ?_
  rw [said.metricLines_eq, List.forall₂_map_left_iff, List.forall₂_same]
  refine forall₂_congr fun metric member => ?_
  have starts := startsAt_explanationColumn (fits metric member)
  exact ⟨starts.unique, fun same => same ▸ starts⟩

end

/-- The letters are all of one width. -/
def LettersAgree (report : QualityReport) : Prop :=
  (∀ metric ∈ report.metrics, metric.letter.IsSigned) ∨
    ∀ metric ∈ report.metrics, ¬metric.letter.IsSigned

instance (report : QualityReport) : Decidable (LettersAgree report) :=
  inferInstanceAs (Decidable (_ ∨ _))

theorem lettersAgree_iff_columns (report : QualityReport) :
    (∃ column, ∀ metric ∈ report.metrics, explanationColumn metric = column) ↔
      LettersAgree report := by
  constructor
  · rintro ⟨column, same⟩
    by_cases signed : column = 34
    · refine Or.inl fun metric member => ?_
      have here := same metric member
      unfold explanationColumn at here
      split at here
      · assumption
      · omega
    · refine Or.inr fun metric member letter => ?_
      have here := same metric member
      rw [explanationColumn, if_pos letter] at here
      exact signed here.symm
  · rintro (signed | plain)
    · exact ⟨34, fun metric member => if_pos (signed metric member)⟩
    · exact ⟨33, fun metric member => if_neg (plain metric member)⟩

/-- The names in a report that is made for code have room in their column. -/
theorem length_name_le (lines : List String) (language : Option String) :
    ∀ metric ∈ (ofLines lines language).metrics, metric.name.toList.length ≤ 22 := by
  intro metric member
  obtain ⟨kind, rfl⟩ := exists_evaluate_of_mem lines language member
  exact kind.length_title_le

section
variable {request : QualityRequest} (scored : (ofRequest request).ok = true)

include scored

theorem length_name_le_of_ok :
    ∀ metric ∈ (ofRequest request).metrics, metric.name.toList.length ≤ 22 := by
  obtain ⟨lines, made⟩ := exists_ofLines_of_ok scored
  rw [made]
  exact length_name_le lines request.language

theorem isAligned_iff_lettersAgree :
    IsAligned (ofRequest request) ↔ LettersAgree (ofRequest request) :=
  (isAligned_iff_columns (hasSentences_of_ok scored) (length_name_le_of_ok scored)).trans
    (lettersAgree_iff_columns _)

end

/-- In the plain text of a report on scored code every sentence starts at column 33 or 34, as the
letter before it has a sign or not, and they are aligned if and only if the letters agree. -/
theorem aligned_iff_letters (request : QualityRequest) (scored : (ofRequest request).ok = true) :
    List.Forall₂ (fun line metric => StartsAt metric.explanation (explanationColumn metric) line)
      (metricLines (ofRequest request)) (ofRequest request).metrics ∧
    (IsAligned (ofRequest request) ↔ LettersAgree (ofRequest request)) :=
  ⟨startsAt_metricLines (hasSentences_of_ok scored) (length_name_le_of_ok scored),
    isAligned_iff_lettersAgree scored⟩

/-- Risk words and copies have an `F`, and branching and size an `A`. -/
theorem aligned_iff_letters_unsigned :
    (ofRequest ⟨"todo\ntodo\nif", none⟩).ok = true ∧
      LettersAgree (ofRequest ⟨"todo\ntodo\nif", none⟩) ∧
      IsAligned (ofRequest ⟨"todo\ntodo\nif", none⟩) := by
  have scored : (ofRequest ⟨"todo\ntodo\nif", none⟩).ok = true := by decide
  have agree : LettersAgree (ofRequest ⟨"todo\ntodo\nif", none⟩) := by decide
  exact ⟨scored, agree, (aligned_iff_letters _ scored).2.mpr agree⟩

/-- Three metrics have an `A+` and the size has an `A`, so its sentence starts one column before the
others. -/
theorem misaligned_assignment :
    (ofRequest ⟨"x = 1", none⟩).ok = true ∧
      (ofRequest ⟨"x = 1", none⟩).metrics.map explanationColumn = [34, 34, 34, 33] ∧
      ¬IsAligned (ofRequest ⟨"x = 1", none⟩) := by
  have scored : (ofRequest ⟨"x = 1", none⟩).ok = true := by decide
  have differ : ¬LettersAgree (ofRequest ⟨"x = 1", none⟩) := by decide
  exact ⟨scored, by decide, mt (isAligned_iff_lettersAgree scored).mp differ⟩

end QualityReport
end CodeAssistant
