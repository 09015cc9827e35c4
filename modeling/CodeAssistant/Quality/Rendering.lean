import CodeAssistant.Number.Decimal
import CodeAssistant.Quality.Report

namespace CodeAssistant
namespace QualityReport

/-!
# Reports as text

A report is written as plain text, with one aligned line for each metric, or as Markdown, with a
table.  In both, a report that was rejected shows its suggestions as errors and nothing else.
-/

/-- The text, followed by blanks up to the given number of characters. -/
def padRight (width : Nat) (s : String) : String :=
  String.ofList (s.toList ++ List.replicate (width - s.toList.length) ' ')

/-- One line for each item. -/
def bulletLines (mark : String) (items : List String) : String :=
  String.join (items.map fun item => mark ++ item ++ "\n")

/-- The line of a metric.  The letter is not padded, so the explanation follows it directly. -/
def metricLine (metric : MetricResult) : String :=
  "  " ++ padRight 22 metric.name ++ " " ++ decimalPadded ' ' 3 metric.score.toNat ++ "  " ++
    metric.letter.label ++ "  " ++ metric.explanation ++ "\n"

/-- The report as plain text. -/
def toText (report : QualityReport) : String :=
  let suggestions := bulletLines "  - " report.suggestions
  if report.ok then
    "Final grade: " ++ report.finalGrade.label ++ " (" ++ decimal report.finalScore.toNat ++
      "/100)\n" ++ String.join (report.metrics.map metricLine) ++ "Suggestions:\n" ++ suggestions
  else suggestions

/-- A headed list of items, or a remark where there are none. -/
def headedList (title : String) (items : List String) (remark : String) : String :=
  "### " ++ title ++ "\n" ++
    (if items.isEmpty then remark ++ "\n" else bulletLines "- " items) ++ "\n"

/-- Text in which no vertical bar ends a table cell. -/
def escapeBars (s : String) : String :=
  String.ofList (Text.replaceChar '|' ['\\', '|'] s.toList)

/-- The row of a metric. -/
def metricRow (metric : MetricResult) : String :=
  "| " ++ metric.name ++ " | " ++ decimal metric.score.toNat ++ " | " ++ metric.letter.label ++
    " | " ++ escapeBars metric.explanation ++ " |\n"

/-- The metrics as a headed table. -/
def metricTable (metrics : List MetricResult) : String :=
  "### Metrics\n" ++
    (if metrics.isEmpty then "No metrics computed.\n"
    else "| Metric | Score | Grade | Notes |\n|---|---|---|---|\n" ++
      String.join (metrics.map metricRow)) ++ "\n"

/-- The report as Markdown. -/
def toMarkdown (report : QualityReport) : String :=
  "# Atum Quality Report\n\n" ++
    if report.ok then
      "- Final grade: **" ++ report.finalGrade.label ++ "**\n- Final score: " ++
        decimal report.finalScore.toNat ++ "/100\n\n" ++ metricTable report.metrics ++
        headedList "Suggestions" report.suggestions "No suggestions."
    else headedList "Errors" report.suggestions "No errors reported."

end QualityReport
end CodeAssistant
