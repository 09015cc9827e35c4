import CodeAssistant.Json.Record
import CodeAssistant.Quality.Report

namespace CodeAssistant

/-!
# Scoring requests and reports as JSON

The fields of a request may be missing; those of a report and its metrics may not.
-/

namespace Grade

/-- The grade as JSON: its label. -/
def toJson (grade : Grade) : Json :=
  .string grade.label

/-- A grade is given by its label, or by an object whose only member has the label as its key and
no value. -/
def ofJson? : Json → Option Grade
  | .string label => ofLabel? label
  | .object [(label, .null)] => ofLabel? label
  | _ => none

theorem ofJson?_toJson (grade : Grade) : ofJson? grade.toJson = some grade :=
  ofLabel?_label grade

end Grade

namespace MetricResult

/-- The names of the fields in the order of transmission. -/
def fieldNames : List String :=
  ["name", "score", "letter", "explanation"]

/-- The metric result as JSON. -/
def toJson (metric : MetricResult) : Json :=
  .object [
    ("name", .string metric.name),
    ("score", .nat metric.score.toNat),
    ("letter", metric.letter.toJson),
    ("explanation", .string metric.explanation)]

/-- The metric result that the value spells. -/
def ofJson? (value : Json) : Option MetricResult := do
  let fields ← value.fields? fieldNames
  return {
    name := ← fields.required "name" Json.text?
    score := ← fields.required "score" Json.byte?
    letter := ← fields.required "letter" Grade.ofJson?
    explanation := ← fields.required "explanation" Json.text? }

end MetricResult

namespace QualityRequest

/-- The names of the fields in the order of transmission. -/
def fieldNames : List String :=
  ["code", "language"]

/-- The request as JSON. -/
def toJson (request : QualityRequest) : Json :=
  .object [
    ("code", .string request.code),
    ("language", .textOrNull request.language)]

/-- The request that the value spells. -/
def ofJson? (value : Json) : Option QualityRequest := do
  let fields ← value.fields? fieldNames
  return {
    code := ← fields.withDefault "code" "" Json.text?
    language := ← fields.withDefault "language" none (Json.optional? Json.text?) }

end QualityRequest

namespace QualityReport

/-- The names of the fields in the order of transmission. -/
def fieldNames : List String :=
  ["ok", "final_score", "final_grade", "metrics", "suggestions"]

/-- The report as JSON. -/
def toJson (report : QualityReport) : Json :=
  .object [
    ("ok", .bool report.ok),
    ("final_score", .nat report.finalScore.toNat),
    ("final_grade", report.finalGrade.toJson),
    ("metrics", .array (report.metrics.map MetricResult.toJson)),
    ("suggestions", .texts report.suggestions)]

/-- The report that the value spells. -/
def ofJson? (value : Json) : Option QualityReport := do
  let fields ← value.fields? fieldNames
  return {
    ok := ← fields.required "ok" Json.bool?
    finalScore := ← fields.required "final_score" Json.byte?
    finalGrade := ← fields.required "final_grade" Grade.ofJson?
    metrics := ← fields.required "metrics" (Json.list? MetricResult.ofJson?)
    suggestions := ← fields.required "suggestions" (Json.list? Json.text?) }

end QualityReport

end CodeAssistant
