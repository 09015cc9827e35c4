import CodeAssistant.Proofs.Quality.Renderings
import CodeAssistant.Proofs.Text.Sections

namespace CodeAssistant

/-!
# One line for each item

A report is written line by line: the plain text has two lines of its own and one for each metric
and each suggestion (`textLines`), and the Markdown has a table and a list (`markdownLines`).
Everything in them is one line with one exception.  The sentence of approval begins with the name of
the language, which may be called anything and is trimmed at its ends only.  A name of several lines
makes several lines of the sentence, and nothing else does (`one_line_each_iff`).
-/

open Text

/-- The text ends with a full stop. -/
def IsSentence (s : String) : Prop :=
  s.toList.getLast? = some '.'

instance (s : String) : Decidable (IsSentence s) :=
  inferInstanceAs (Decidable (_ = _))

namespace IsSentence

theorem append {second : String} (rest : IsSentence second) (first : String) :
    IsSentence (first ++ second) :=
  getLast?_toList_append rest first

theorem ite {p : Prop} [Decidable p] {first second : String} (whenTrue : IsSentence first)
    (whenFalse : IsSentence second) : IsSentence (if p then first else second) := by
  split
  · exact whenTrue
  · exact whenFalse

theorem isLine {s : String} (closed : IsSentence s) (unbroken : '\n' ∉ s.toList) : IsLine s := by
  refine ⟨unbroken, ?_⟩
  rw [closed, ne_eq, Option.some.injEq]
  decide

end IsSentence

namespace Metric

/-- Every sentence on a metric ends with a full stop. -/
theorem isSentence_explanation (lines : List String) (metric : Metric) :
    IsSentence (explanation lines metric) := by
  cases metric with
  | complexity =>
    apply IsSentence.append
    exact .ite (by decide) (by decide +kernel)
  | defectDensity =>
    apply IsSentence.ite
    · exact .append (by decide) _
    · exact .append (by decide) _
  | duplication =>
    apply IsSentence.ite
    · decide
    · exact .append (by decide) _
  | size =>
    apply IsSentence.append
    exact .ite (by decide) (by decide +kernel)

theorem unbroken_title (metric : Metric) : '\n' ∉ metric.title.toList := by
  cases metric <;> decide

end Metric

namespace QualityReport

/-! ## The lines -/

/-- The line of the final result in plain text. -/
def gradeLine (report : QualityReport) : String :=
  "Final grade: " ++ report.finalGrade.label ++ " (" ++ decimal report.finalScore.toNat ++ "/100)"

/-- The line of a metric in plain text. -/
def metricEntry (metric : MetricResult) : String :=
  "  " ++ padRight 22 metric.name ++ " " ++ decimalPadded ' ' 3 metric.score.toNat ++ "  " ++
    metric.letter.label ++ "  " ++ metric.explanation

/-- The lines before the suggestions in plain text. -/
def textHead (report : QualityReport) : List String :=
  gradeLine report :: report.metrics.map metricEntry

/-- The lines of a scored report in plain text. -/
def textLines (report : QualityReport) : List String :=
  textHead report ++ "Suggestions:" :: report.suggestions.map ("  - " ++ ·)

/-- The lines before the rows of the metrics in Markdown, without the last one. -/
def tableHead (report : QualityReport) : List String :=
  ["# Atum Quality Report", "", "- Final grade: **" ++ report.finalGrade.label ++ "**",
    "- Final score: " ++ decimal report.finalScore.toNat ++ "/100", "", "### Metrics",
    "| Metric | Score | Grade | Notes |"]

/-- The last line before the rows. -/
def tableRule : String := "|---|---|---|---|"

/-- The row of a metric, as a line. -/
def rowEntry (metric : MetricResult) : String :=
  "| " ++ metric.name ++ " | " ++ decimal metric.score.toNat ++ " | " ++ metric.letter.label ++
    " | " ++ escapeBars metric.explanation ++ " |"

/-- The lines of the suggestions in Markdown. -/
def listLines (items : List String) : List String :=
  if items.isEmpty then ["No suggestions."] else items.map ("- " ++ ·)

/-- The lines of a scored report in Markdown. -/
def markdownLines (report : QualityReport) : List String :=
  tableHead report ++ tableRule :: (report.metrics.map rowEntry ++
    "" :: "### Suggestions" :: (listLines report.suggestions ++ [""]))

section
variable {report : QualityReport}

theorem join_map_eq_ofLines {α : Type} {write entry : α → String}
    (same : ∀ item, write item = entry item ++ "\n") (items : List α) :
    String.join (items.map write) = Prompt.ofLines (items.map entry) := by
  rw [Prompt.ofLines, List.map_map, funext same]
  rfl

theorem bulletLines_eq_ofLines (mark : String) (items : List String) :
    bulletLines mark items = Prompt.ofLines (items.map (mark ++ ·)) :=
  join_map_eq_ofLines (fun _ => rfl) items

theorem metricLine_eq (metric : MetricResult) :
    metricLine metric = metricEntry metric ++ "\n" := by
  unfold metricLine metricEntry
  rfl

theorem metricRow_eq (metric : MetricResult) : metricRow metric = rowEntry metric ++ "\n" := by
  have bar : " |\n" = " |" ++ "\n" := by decide
  unfold metricRow rowEntry
  rw [bar]
  simp only [String.append_assoc]

theorem toText_of_ok (scored : report.ok = true) :
    report.toText = Prompt.ofLines report.textLines := by
  have ended : "/100)\n" = "/100)" ++ "\n" := by decide
  unfold toText
  rw [if_pos scored, ended, join_map_eq_ofLines metricLine_eq, bulletLines_eq_ofLines, textLines,
    textHead, Prompt.ofLines_append, Prompt.ofLines_cons, Prompt.ofLines_cons]
  unfold gradeLine
  simp only [String.append_assoc]
  rfl

theorem headedList_suggestions_eq (items : List String) :
    headedList "Suggestions" items "No suggestions." =
      Prompt.ofLines ("### Suggestions" :: (listLines items ++ [""])) := by
  rw [headedList, listLines, Prompt.ofLines_cons, Prompt.ofLines_append]
  split
  · decide
  · rw [bulletLines_eq_ofLines]
    simp only [String.append_assoc]
    rfl

theorem toMarkdown_of_ok (scored : report.ok = true) (filled : report.metrics ≠ []) :
    report.toMarkdown = Prompt.ofLines report.markdownLines := by
  have title : "# Atum Quality Report\n\n" = "# Atum Quality Report" ++ ("\n" ++ "\n") := by decide
  have grade : "**\n- Final score: " = "**" ++ ("\n" ++ "- Final score: ") := by decide
  have score : "/100\n\n" = "/100" ++ ("\n" ++ "\n") := by decide
  have table : "| Metric | Score | Grade | Notes |\n|---|---|---|---|\n" =
      "| Metric | Score | Grade | Notes |" ++ ("\n" ++ (tableRule ++ "\n")) := by decide
  have metrics : "### Metrics\n" = "### Metrics" ++ "\n" := by decide
  unfold toMarkdown
  rw [if_pos scored, metricTable, if_neg (by rwa [List.isEmpty_iff]),
    join_map_eq_ofLines metricRow_eq, headedList_suggestions_eq, title, grade, score, metrics,
    table, markdownLines, tableHead]
  simp only [List.cons_append, List.nil_append, Prompt.ofLines_cons, Prompt.ofLines_append,
    String.append_assoc, String.empty_append]

end

/-! ## Lines that are one line -/

section
variable {metric : MetricResult}

theorem unbroken_label (grade : Grade) : '\n' ∉ grade.label.toList := by
  cases grade <;> decide

theorem unbroken_decimal (n : Nat) : '\n' ∉ (decimal n).toList :=
  decimal_lacks (by decide) n

theorem unbroken_padRight {s : String} (unbroken : '\n' ∉ s.toList) (width : Nat) :
    '\n' ∉ (padRight width s).toList := by
  rw [padRight, String.toList_ofList, List.mem_append, not_or]
  exact ⟨unbroken, fun fill => absurd (List.eq_of_mem_replicate fill) (by decide)⟩

theorem unbroken_decimalPadded (width n : Nat) :
    '\n' ∉ (decimalPadded ' ' width n).toList := by
  intro member
  rcases eq_or_isDigit_of_mem_decimalPadded member with fill | digit
  · exact absurd fill (by decide)
  · exact absurd digit (by decide)

theorem unbroken_escapeBars {s : String} (unbroken : '\n' ∉ s.toList) :
    '\n' ∉ (escapeBars s).toList := by
  rw [escapeBars, String.toList_ofList, replaceChar, List.mem_flatMap]
  rintro ⟨c, member, same⟩
  split_ifs at same with bar
  · exact absurd same (by decide)
  · rw [List.mem_singleton] at same
    exact unbroken (same ▸ member)

theorem isLine_gradeLine (report : QualityReport) : IsLine (gradeLine report) := by
  refine .append ?_ (by decide) (by decide)
  simp only [unbroken_append_iff]
  exact ⟨⟨⟨by decide, unbroken_label _⟩, by decide⟩, unbroken_decimal _⟩

theorem isLine_metricEntry (name : '\n' ∉ metric.name.toList)
    (explanation : '\n' ∉ metric.explanation.toList) (closed : IsSentence metric.explanation) :
    IsLine (metricEntry metric) := by
  refine (closed.append _).isLine ?_
  simp only [unbroken_append_iff]
  exact ⟨⟨⟨⟨⟨⟨⟨by decide, unbroken_padRight name _⟩, by decide⟩, unbroken_decimalPadded _ _⟩,
    by decide⟩, unbroken_label _⟩, by decide⟩, explanation⟩

theorem isLine_rowEntry (name : '\n' ∉ metric.name.toList)
    (explanation : '\n' ∉ metric.explanation.toList) : IsLine (rowEntry metric) := by
  refine .append ?_ (by decide) (by decide)
  simp only [unbroken_append_iff]
  exact ⟨⟨⟨⟨⟨⟨⟨by decide, name⟩, by decide⟩, unbroken_decimal _⟩, by decide⟩, unbroken_label _⟩,
    by decide⟩, unbroken_escapeBars explanation⟩

theorem tableRule_notMem_tableHead (report : QualityReport) : tableRule ∉ tableHead report := by
  simp only [tableHead, String.append_assoc, List.mem_cons, List.not_mem_nil, or_false, not_or]
  refine ⟨by decide, by decide, ?_, ?_, by decide, by decide, by decide⟩
  · exact ne_append_of_head? (c := '|') (d := '-') (by decide) (by decide) (by decide) _
  · exact ne_append_of_head? (c := '|') (d := '-') (by decide) (by decide) (by decide) _

theorem isLine_tableHead (report : QualityReport) : ∀ line ∈ tableHead report, IsLine line := by
  have grade : IsLine ("- Final grade: **" ++ report.finalGrade.label ++ "**") := by
    refine .append ?_ (by decide) (by decide)
    exact unbroken_append_iff.mpr ⟨by decide, unbroken_label _⟩
  have score : IsLine ("- Final score: " ++ decimal report.finalScore.toNat ++ "/100") := by
    refine .append ?_ (by decide) (by decide)
    exact unbroken_append_iff.mpr ⟨by decide, unbroken_decimal _⟩
  simp only [tableHead, List.forall_mem_cons]
  exact ⟨by decide, by decide, grade, score, by decide, by decide, by decide, List.forall_mem_nil _⟩

end

/-! ## Reports of sentences -/

/-- What is said in the report is said in sentences, and all but the suggestions have one line. -/
structure HasSentences (report : QualityReport) : Prop where
  ok : report.ok = true
  measured : report.metrics ≠ []
  suggested : report.suggestions ≠ []
  names : ∀ metric ∈ report.metrics, '\n' ∉ metric.name.toList
  explanations : ∀ metric ∈ report.metrics, '\n' ∉ metric.explanation.toList
  explained : ∀ metric ∈ report.metrics, IsSentence metric.explanation
  suggestions : ∀ suggestion ∈ report.suggestions, IsSentence suggestion

namespace HasSentences

variable {report : QualityReport}

theorem isLine_textHead (said : HasSentences report) : ∀ line ∈ textHead report, IsLine line := by
  rw [textHead, List.forall_mem_cons, List.forall_mem_map]
  refine ⟨isLine_gradeLine report, fun metric member => ?_⟩
  exact isLine_metricEntry (said.names metric member) (said.explanations metric member)
    (said.explained metric member)

theorem isLine_rows (said : HasSentences report) :
    ∀ line ∈ report.metrics.map rowEntry, IsLine line := by
  rw [List.forall_mem_map]
  intro metric member
  exact isLine_rowEntry (said.names metric member) (said.explanations metric member)

/-- Bullets with a mark that is one line are one line each if and only if the items are. -/
theorem unbroken_bullets_iff {mark : String} (unbroken : '\n' ∉ mark.toList) (items : List String) :
    (∀ line ∈ items.map (mark ++ ·), '\n' ∉ line.toList) ↔ ∀ item ∈ items, '\n' ∉ item.toList := by
  simp only [List.forall_mem_map, unbroken_append_iff, unbroken, not_false_eq_true, true_and]

theorem closed_bullets (said : HasSentences report) (mark : String) :
    ∀ line ∈ report.suggestions.map (mark ++ ·), line.toList.getLast? ≠ some '\r' := by
  rw [List.forall_mem_map]
  intro suggestion member
  have last : IsSentence (mark ++ suggestion) := (said.suggestions suggestion member).append mark
  rw [last, ne_eq, Option.some.injEq]
  decide

theorem length_textLines (report : QualityReport) :
    report.textLines.length = 2 + report.metrics.length + report.suggestions.length := by
  rw [textLines, textHead, List.length_append, List.length_cons, List.length_map, List.length_cons,
    List.length_map]
  omega

theorem length_toText_iff (said : HasSentences report) :
    (newlineLines report.toText).length =
        2 + report.metrics.length + report.suggestions.length ↔
      ∀ suggestion ∈ report.suggestions, '\n' ∉ suggestion.toList := by
  have own : ∀ line ∈ textHead report, '\n' ∉ line.toList :=
    fun line member => (said.isLine_textHead line member).unbroken
  have title : '\n' ∉ "Suggestions:".toList := by decide
  rw [toText_of_ok said.ok, ← length_textLines, length_newlineLines_ofLines_eq_iff, textLines,
    List.forall_mem_append, List.forall_mem_cons, unbroken_bullets_iff (by decide)]
  exact ⟨fun each => each.2.2, fun each => ⟨own, title, each⟩⟩

theorem heading_notMem_textHead (report : QualityReport) : "Suggestions:" ∉ textHead report := by
  rw [textHead, List.mem_cons, List.mem_map]
  unfold gradeLine metricEntry
  simp only [String.append_assoc]
  rintro (grade | ⟨metric, -, same⟩)
  · exact ne_append_of_head? (c := 'S') (d := 'F') (by decide) (by decide) (by decide) _ grade
  · exact ne_append_of_head? (c := 'S') (d := ' ') (by decide) (by decide) (by decide) _ same.symm

theorem heading_notMem_table (report : QualityReport) :
    "### Suggestions" ∉ tableHead report ++ tableRule :: (report.metrics.map rowEntry ++ [""]) := by
  rw [List.mem_append, List.mem_cons, List.mem_append, List.mem_map, List.mem_singleton]
  unfold rowEntry
  simp only [String.append_assoc]
  rintro (head | rule | ⟨metric, -, same⟩ | empty)
  · simp [tableHead, ← String.toList_inj] at head
  · exact absurd rule (by decide)
  · exact ne_append_of_head? (c := '#') (d := '|') (by decide) (by decide) (by decide) _ same.symm
  · exact absurd empty (by decide)

theorem bullet_ne_empty {mark : String} (shown : mark ≠ "") (items : List String) :
    ∀ line ∈ items.map (mark ++ ·), line ≠ "" := by
  rw [List.forall_mem_map]
  intro item member empty
  exact shown (String.append_eq_empty_iff.mp empty).1

theorem suggestions_toText_iff (said : HasSentences report) :
    sectionUnder "Suggestions:" report.toText = report.suggestions.map ("  - " ++ ·) ↔
      ∀ suggestion ∈ report.suggestions, '\n' ∉ suggestion.toList := by
  have bullets : report.textLines = textHead report ++
      "Suggestions:" :: (report.suggestions.map ("  - " ++ ·) ++ []) := by
    rw [textLines, List.append_nil]
  have mark : '\n' ∉ "  - ".toList := by decide
  rw [toText_of_ok said.ok, bullets, ← unbroken_bullets_iff mark]
  exact sectionUnder_ofLines_iff said.isLine_textHead (by decide) (heading_notMem_textHead report)
    (bullet_ne_empty (by decide) _) (said.closed_bullets _) rfl

theorem suggestions_toMarkdown_iff (said : HasSentences report) :
    sectionUnder "### Suggestions" report.toMarkdown = report.suggestions.map ("- " ++ ·) ↔
      ∀ suggestion ∈ report.suggestions, '\n' ∉ suggestion.toList := by
  have bullets : report.markdownLines =
      (tableHead report ++ tableRule :: (report.metrics.map rowEntry ++ [""])) ++
        "### Suggestions" :: (report.suggestions.map ("- " ++ ·) ++ [""]) := by
    rw [markdownLines, listLines, if_neg (by rw [List.isEmpty_iff]; exact said.suggested)]
    simp only [List.append_assoc, List.cons_append, List.nil_append]
  have mark : '\n' ∉ "- ".toList := by decide
  have table : ∀ line ∈ tableHead report ++ tableRule :: (report.metrics.map rowEntry ++ [""]),
      IsLine line := by
    rw [List.forall_mem_append, List.forall_mem_cons, List.forall_mem_append,
      List.forall_mem_singleton]
    exact ⟨isLine_tableHead report, by decide, said.isLine_rows, by decide⟩
  rw [toMarkdown_of_ok said.ok said.measured, bullets, ← unbroken_bullets_iff mark]
  exact sectionUnder_ofLines_iff table (by decide) (heading_notMem_table report)
    (bullet_ne_empty (by decide) _) (said.closed_bullets _) rfl

end HasSentences

/-! ## Suggestions -/

section
variable (lines : List String) (language : Option String)

theorem exists_evaluate_of_mem {metric : MetricResult}
    (member : metric ∈ (ofLines lines language).metrics) :
    ∃ kind, metric = Metric.evaluate lines kind := by
  rw [metrics_ofLines] at member
  obtain ⟨kind, _, result⟩ := List.mem_map.mp member
  exact ⟨kind, result.symm⟩

theorem exists_evaluate_of_mem_weak {sentence : String}
    (member : sentence ∈ weakExplanations (ofLines lines language)) :
    ∃ kind, sentence = Metric.explanation lines kind := by
  obtain ⟨metric, weak, same⟩ := List.mem_map.mp member
  obtain ⟨kind, rfl⟩ := exists_evaluate_of_mem lines language (List.mem_of_mem_filter weak)
  exact ⟨kind, same.symm⟩

theorem suggestions_ofLines_eq :
    (ofLines lines language).suggestions =
      if weakExplanations (ofLines lines language) = [] then
        [languageLabel language ++ " quality is within acceptable range."]
      else weakExplanations (ofLines lines language) := by
  rw [suggestions_ofLines, suggestionsFor_eq]

theorem hasSentences_ofLines : HasSentences (ofLines lines language) where
  ok := ok_ofLines lines language
  measured := by
    rw [metrics_ofLines]
    exact List.cons_ne_nil _ _
  suggested := by
    rw [suggestions_ofLines]
    exact suggestionsFor_ne_nil _ language
  names := by
    intro metric member
    obtain ⟨kind, rfl⟩ := exists_evaluate_of_mem lines language member
    exact kind.unbroken_title
  explanations := by
    intro metric member
    obtain ⟨kind, rfl⟩ := exists_evaluate_of_mem lines language member
    exact (Metric.fitsCell_explanation lines kind).not_newline
  explained := by
    intro metric member
    obtain ⟨kind, rfl⟩ := exists_evaluate_of_mem lines language member
    exact Metric.isSentence_explanation lines kind
  suggestions := by
    rw [suggestions_ofLines_eq]
    split_ifs with accepted
    · rw [List.forall_mem_singleton]
      exact IsSentence.append (by decide) _
    · intro sentence member
      obtain ⟨kind, rfl⟩ := exists_evaluate_of_mem_weak lines language member
      exact Metric.isSentence_explanation lines kind

theorem unbroken_suggestions_iff :
    (∀ suggestion ∈ (ofLines lines language).suggestions, '\n' ∉ suggestion.toList) ↔
      weakExplanations (ofLines lines language) ≠ [] ∨ '\n' ∉ (languageLabel language).toList := by
  rw [suggestions_ofLines_eq]
  split_ifs with accepted
  · have rest : '\n' ∉ " quality is within acceptable range.".toList := by decide
    rw [List.forall_mem_singleton, unbroken_append_iff]
    simp only [rest, accepted, not_false_eq_true, and_true, ne_eq, not_true_eq_false, false_or]
  · refine iff_of_true (fun sentence member => ?_) (Or.inl accepted)
    obtain ⟨kind, rfl⟩ := exists_evaluate_of_mem_weak lines language member
    exact (Metric.fitsCell_explanation lines kind).not_newline

end

/-- There is advice in the report, or the acceptable code is called something of one line. -/
def SuggestsLines (request : QualityRequest) : Prop :=
  weakExplanations (ofRequest request) ≠ [] ∨ '\n' ∉ (languageLabel request.language).toList

instance (request : QualityRequest) : Decidable (SuggestsLines request) :=
  inferInstanceAs (Decidable (_ ∨ _))

section
variable {request : QualityRequest} (scored : (ofRequest request).ok = true)

include scored

theorem exists_ofLines_of_ok : ∃ lines, ofRequest request = ofLines lines request.language := by
  refine (eq_rejected_or_ofLines request).resolve_left fun refused => ?_
  rw [refused] at scored
  cases scored

theorem hasSentences_of_ok : HasSentences (ofRequest request) := by
  obtain ⟨lines, made⟩ := exists_ofLines_of_ok scored
  rw [made]
  exact hasSentences_ofLines lines request.language

theorem unbroken_suggestions_of_ok_iff :
    (∀ suggestion ∈ (ofRequest request).suggestions, '\n' ∉ suggestion.toList) ↔
      SuggestsLines request := by
  obtain ⟨lines, made⟩ := exists_ofLines_of_ok scored
  rw [SuggestsLines, made, unbroken_suggestions_iff]

end

/-- Every metric and every suggestion has a line of its own in the plain text, and both renderings
list the suggestions line by line, unless the only suggestion begins with the name of a language
that has several lines. -/
theorem one_line_each_iff (request : QualityRequest) (scored : (ofRequest request).ok = true) :
    ((newlineLines (ofRequest request).toText).length =
        2 + (ofRequest request).metrics.length + (ofRequest request).suggestions.length ↔
      SuggestsLines request) ∧
    (sectionUnder "Suggestions:" (ofRequest request).toText =
        (ofRequest request).suggestions.map ("  - " ++ ·) ↔
      SuggestsLines request) ∧
    (sectionUnder "### Suggestions" (ofRequest request).toMarkdown =
        (ofRequest request).suggestions.map ("- " ++ ·) ↔
      SuggestsLines request) := by
  have said := hasSentences_of_ok scored
  rw [← unbroken_suggestions_of_ok_iff scored]
  exact ⟨said.length_toText_iff, said.suggestions_toText_iff, said.suggestions_toMarkdown_iff⟩

theorem one_line_each_rust :
    (ofRequest ⟨"x = 1", some "Rust"⟩).ok = true ∧ SuggestsLines ⟨"x = 1", some "Rust"⟩ ∧
      (newlineLines (ofRequest ⟨"x = 1", some "Rust"⟩).toText).length = 7 := by
  have scored : (ofRequest ⟨"x = 1", some "Rust"⟩).ok = true := by decide
  have suggests : SuggestsLines ⟨"x = 1", some "Rust"⟩ := by decide
  refine ⟨scored, suggests, ?_⟩
  rw [(one_line_each_iff _ scored).1.mpr suggests]
  decide

/-- The name of this language has two lines, and nothing needs advice. -/
theorem two_lines_of_language :
    (ofRequest ⟨"x = 1", some "a\n- b"⟩).ok = true ∧
      (newlineLines (ofRequest ⟨"x = 1", some "a\n- b"⟩).toText).length ≠
        2 + (ofRequest ⟨"x = 1", some "a\n- b"⟩).metrics.length +
          (ofRequest ⟨"x = 1", some "a\n- b"⟩).suggestions.length ∧
      sectionUnder "Suggestions:" (ofRequest ⟨"x = 1", some "a\n- b"⟩).toText ≠
        (ofRequest ⟨"x = 1", some "a\n- b"⟩).suggestions.map ("  - " ++ ·) ∧
      sectionUnder "### Suggestions" (ofRequest ⟨"x = 1", some "a\n- b"⟩).toMarkdown ≠
        (ofRequest ⟨"x = 1", some "a\n- b"⟩).suggestions.map ("- " ++ ·) := by
  have scored : (ofRequest ⟨"x = 1", some "a\n- b"⟩).ok = true := by decide
  have broken : ¬SuggestsLines ⟨"x = 1", some "a\n- b"⟩ := by decide
  have said := hasSentences_of_ok scored
  rw [← unbroken_suggestions_of_ok_iff scored] at broken
  exact ⟨scored, mt said.length_toText_iff.mp broken, mt said.suggestions_toText_iff.mp broken,
    mt said.suggestions_toMarkdown_iff.mp broken⟩

end QualityReport
end CodeAssistant
