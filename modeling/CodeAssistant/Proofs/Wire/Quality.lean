import CodeAssistant.Proofs.Json.Readable
import CodeAssistant.Proofs.Wire.Generation

namespace CodeAssistant

open Json

/-!
# Scoring records on the wire

The record that is decoded is the one that was encoded, and an encoded record is legible, as for the
records of generation.  Two kinds of field are new here: a score, which is transmitted as a numeral,
and a list of records, each decoded by itself.
-/

theorem Grade.legible_toJson (grade : Grade) : grade.toJson.Legible :=
  .string grade.label

theorem MetricResult.legible_toJson (metric : MetricResult) : metric.toJson.Legible := by
  refine .object_cons (.string _) (.object_cons ?_ (.object_cons ?_
    (.object_cons (.string _) .object_nil)))
  · exact .nat metric.score.toNat
  · exact metric.letter.legible_toJson

theorem MetricResult.ofJson?_toJson (metric : MetricResult) :
    ofJson? metric.toJson = some metric := by
  have present : metric.toJson.fields? fieldNames = some _ := fields?_object rfl (by decide)
  rw [ofJson?, present]
  simp [Fields.required, List.lookup_cons, text?, byte?_nat, Grade.ofJson?_toJson]

theorem QualityRequest.legible_toJson (request : QualityRequest) : request.toJson.Legible := by
  refine .object_cons (.string _) (.object_cons ?_ .object_nil)
  exact .textOrNull request.language

theorem QualityRequest.ofJson?_toJson (request : QualityRequest) :
    ofJson? request.toJson = some request := by
  rcases request with ⟨code, language⟩
  cases language <;> rfl

theorem QualityReport.legible_toJson (report : QualityReport) : report.toJson.Legible := by
  refine .object_cons (.bool _) (.object_cons ?_ (.object_cons ?_ (.object_cons ?_
    (.object_cons ?_ .object_nil))))
  · exact .nat report.finalScore.toNat
  · exact report.finalGrade.legible_toJson
  · apply Legible.array
    intro item member
    rcases List.mem_map.mp member with ⟨metric, -, rfl⟩
    exact metric.legible_toJson
  · exact .texts report.suggestions

theorem QualityReport.ofJson?_toJson (report : QualityReport) :
    ofJson? report.toJson = some report := by
  have present : report.toJson.fields? fieldNames = some _ := fields?_object rfl (by decide)
  have metrics : list? MetricResult.ofJson? (.array (report.metrics.map MetricResult.toJson)) =
      some report.metrics := mapM_map MetricResult.ofJson?_toJson report.metrics
  rw [ofJson?, present]
  simp [Fields.required, List.lookup_cons, bool?, byte?_nat, Grade.ofJson?_toJson, metrics, list?_texts]

end CodeAssistant
