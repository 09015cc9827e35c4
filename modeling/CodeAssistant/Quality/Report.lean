import CodeAssistant.MissingField
import CodeAssistant.Quality.Metric
import CodeAssistant.Text.Line

namespace CodeAssistant

/-!
# Quality reports

A report lists the four metric results, their mean, and suggestions for improvement.  Code that
consists of blanks is not scored at all; its report says so and has nothing else.
-/

/-- What is to be scored.  The language is a label for the reader and does not affect the scores. -/
structure QualityRequest where
  code : String
  language : Option String
  deriving DecidableEq

/-- The outcome of scoring.  `suggestions` is never empty in a report made by
`QualityReport.ofRequest`. -/
structure QualityReport where
  ok : Bool
  finalScore : UInt8
  finalGrade : Grade
  metrics : List MetricResult
  suggestions : List String
  deriving DecidableEq

namespace QualityReport

/-- The report on a request that lacks the code. -/
def rejected (missing : MissingField) : QualityReport :=
  ⟨false, 0, .f, [], [missing.message]⟩

/-- The mean of the scores, rounded; no metrics have the mean zero. -/
def meanScore (metrics : List MetricResult) : UInt8 :=
  if metrics.isEmpty then 0
  else clampScore (nearestInt (total (metrics.map fun m => m.score.toNat)) metrics.length)

/-- Metrics that score less than this contribute their explanation to the suggestions. -/
def suggestionBound : UInt8 := 80

/-- What the acceptable code is called. -/
def subject (language : Option String) : String :=
  (language.bind Text.nonBlank?).getD "Code"

/-- The explanations of the weak metrics or, when there are none, one sentence of approval. -/
def suggestionsFor (metrics : List MetricResult) (language : Option String) : List String :=
  match (metrics.filter fun m => m.score < suggestionBound).map MetricResult.explanation with
  | [] => [subject language ++ " quality is within acceptable range."]
  | weak => weak

/-- The report on code with the given significant lines. -/
def ofLines (lines : List String) (language : Option String) : QualityReport :=
  let metrics := Metric.all.map (Metric.evaluate lines)
  let mean := meanScore metrics
  ⟨true, mean, .ofScore mean.toNat, metrics, suggestionsFor metrics language⟩

/-- The report on the requested code. -/
def ofRequest (request : QualityRequest) : QualityReport :=
  match MissingField.first? [(.code, request.code)] with
  | some missing => rejected missing
  | none => ofLines (Text.significantLines (Text.trim request.code)) request.language

end QualityReport

end CodeAssistant
