import CodeAssistant.Json.Value
import CodeAssistant.Quality.Grade

namespace CodeAssistant

/-!
# The description of the HTTP interface

Clients can ask the service for a machine-readable description of its interface.  Here the records
and operations are described as data, and the document is made from that data, so that the required
fields of a record and the references between records cannot be forgotten in one place.
-/

namespace ApiDescription

/-- What a field of a record holds. -/
inductive FieldType where
  | text | optionalText | flag | texts | score | grade | metrics

/-- A field of a record. -/
structure Field where
  name : String
  type : FieldType
  description : String

/-- A record; either all of its fields must be present or none. -/
structure Record where
  name : String
  description : String
  allRequired : Bool
  fields : List Field

/-- Something that a client can do. -/
structure Operation where
  path : String
  method : String
  name : String
  summary : String
  tag : String
  /-- The record that the client sends, if it sends one. -/
  request : Option String
  /-- The record of the answer, if it is one. -/
  response : Option String
  responseDescription : String
  /-- Whether the operation runs a task that may break down. -/
  mayFail : Bool

/-- A member that holds a text. -/
def textMember (key text : String) : String × Json :=
  (key, .string text)

/-- The place in the document where a record is described. -/
def reference (name : String) : String × Json :=
  textMember "$ref" ("#/components/schemas/" ++ name)

namespace Field

/-- The description of the field. -/
def toJson (field : Field) : Json :=
  let description := textMember "description" field.description
  match field.type with
  | .text => .object [textMember "type" "string", description]
  | .optionalText => .object [textMember "type" "string", description, ("nullable", .bool true)]
  | .flag => .object [textMember "type" "boolean", description]
  | .texts =>
    .object [textMember "type" "array", description,
      ("items", .object [textMember "type" "string"])]
  | .score =>
    .object [textMember "type" "integer", textMember "format" "int32", description,
      ("minimum", .nat 0)]
  | .grade => .object [reference "Grade"]
  | .metrics =>
    .object [textMember "type" "array", description, ("items", .object [reference "MetricResult"])]

end Field

namespace Record

/-- The description of the record. -/
def toJson (record : Record) : Json :=
  let required := if record.allRequired then
    [("required", Json.texts (record.fields.map Field.name))] else []
  let properties := record.fields.map fun field => (field.name, field.toJson)
  .object ([
    textMember "type" "object",
    textMember "description" record.description,
    ("properties", .object properties)] ++ required)

end Record

/-- The member that says where contents of type JSON are described. -/
def content (schema : List (String × Json)) : String × Json :=
  ("content", .object [("application/json", .object [("schema", .object schema)])])

namespace Operation

/-- The responses to the operation, by status. -/
def responses (operation : Operation) : Json :=
  let failure := if operation.mayFail then
    [("500", Json.object [
      content [reference "ErrorResponse"],
      textMember "description" "Generation task failed"])] else []
  .object (("200", .object [
    content (operation.response.toList.map reference),
    textMember "description" operation.responseDescription]) :: failure)

/-- The description of the operation. -/
def toJson (operation : Operation) : Json :=
  let body := operation.request.toList.map fun name =>
    ("requestBody", Json.object [content [reference name], ("required", .bool true)])
  .object ([
    ("tags", .texts [operation.tag]),
    textMember "summary" operation.summary,
    textMember "operationId" operation.name,
    ("responses", operation.responses)] ++ body)

end Operation

/-- The field that says whether a result is usable, and the field with remarks. -/
def noted (okDescription : String) (fields : List Field) : List Field :=
  ⟨"ok", .flag, okDescription⟩ :: fields ++
    [⟨"notes", .texts, "Informational or error notes."⟩]

/-- The records of the interface. -/
def records : List Record := [
  ⟨"CodeGenerationRequest", "Request payload for code generation.", false, [
    ⟨"query", .text, "Natural-language description of the code to write."⟩,
    ⟨"language", .text, "Target language."⟩]⟩,
  ⟨"CodeGenerationResponse", "Response payload for code generation.", true,
    noted "Whether usable code was produced." [
      ⟨"query", .text, "Echoed request description."⟩,
      ⟨"language", .text, "Echoed language."⟩,
      ⟨"generated_code", .text, "Generated source code."⟩]⟩,
  ⟨"ErrorResponse", "Error response payload.", true, [
    ⟨"message", .text, "Error message."⟩]⟩,
  ⟨"GenerateDocsRequest", "Request payload for documentation generation.", false, [
    ⟨"code", .text, "Source code to document."⟩,
    ⟨"language", .optionalText, "Language of the code."⟩,
    ⟨"project_name", .optionalText, "Project name used in the document and filename."⟩]⟩,
  ⟨"GenerateDocsResponse", "Response payload for documentation generation.", true,
    noted "Whether a usable document was produced." [
      ⟨"filename", .text, "Suggested Markdown filename."⟩,
      ⟨"content", .text, "Markdown content."⟩]⟩,
  ⟨"GenerateTestsRequest", "Request payload for unit test generation.", false, [
    ⟨"code", .text, "Source code under test."⟩,
    ⟨"language", .text, "Language of the code (e.g. \"python\")."⟩,
    ⟨"framework", .text, "Test framework to target (e.g. \"pytest\")."⟩]⟩,
  ⟨"GenerateTestsResponse", "Response payload for unit test generation.", true,
    noted "Whether usable tests were produced." [
      ⟨"tests", .text, "Generated test source."⟩,
      ⟨"language", .text, "Echoed language."⟩,
      ⟨"framework", .text, "Echoed framework."⟩]⟩,
  ⟨"MetricResult", "One scored quality dimension.", true, [
    ⟨"name", .text, "Metric display name."⟩,
    ⟨"score", .score, "Score clamped to 0-100."⟩,
    ⟨"letter", .grade, ""⟩,
    ⟨"explanation", .text, "Human-readable explanation."⟩]⟩,
  ⟨"QualityReport", "Aggregated quality report.", true, [
    ⟨"ok", .flag, "Whether the code could be analyzed."⟩,
    ⟨"final_score", .score, "Rounded mean of the metric scores."⟩,
    ⟨"final_grade", .grade, ""⟩,
    ⟨"metrics", .metrics, "Metric results in evaluation order."⟩,
    ⟨"suggestions", .texts, "Improvement suggestions; never empty."⟩]⟩,
  ⟨"QualityReportRequest", "Request payload for a quality report.", false, [
    ⟨"code", .text, "Source code to analyze."⟩,
    ⟨"language", .optionalText, "Declared language of the code."⟩]⟩,
  ⟨"StatusResponse", "Liveness payload.", true, [
    ⟨"status", .text, "Human-readable status."⟩]⟩]

/-- The description of the grades, which are not a record. -/
def gradeSchema : Json :=
  .object [
    textMember "type" "string",
    textMember "description" "Discrete letter grade derived from a 0-100 score.",
    ("enum", .texts (Grade.all.map Grade.label))]

/-- The operations of the interface. -/
def operations : List Operation := [
  { path := "/", method := "get", name := "health", tag := "system"
    summary := "Report that the backend is running."
    request := none, response := some "StatusResponse"
    responseDescription := "Backend is up", mayFail := false },
  { path := "/api/openapi.json", method := "get", name := "openapi_json", tag := "system"
    summary := "Serve the OpenAPI document."
    request := none, response := none
    responseDescription := "OpenAPI document", mayFail := false },
  { path := "/api/v1/generate-docs", method := "post", name := "generate_documentation"
    tag := "generation"
    summary := "Generate Markdown documentation for a code snippet."
    request := some "GenerateDocsRequest", response := some "GenerateDocsResponse"
    responseDescription := "Generated documentation or validation notes", mayFail := true },
  { path := "/api/v1/generate-tests", method := "post", name := "generate_unit_tests"
    tag := "generation"
    summary := "Generate unit tests for a code snippet."
    request := some "GenerateTestsRequest", response := some "GenerateTestsResponse"
    responseDescription := "Generated tests or validation notes", mayFail := true },
  { path := "/api/v1/quality-report", method := "post", name := "quality_report", tag := "quality"
    summary := "Score a code snippet without contacting the generation backend."
    request := some "QualityReportRequest", response := some "QualityReport"
    responseDescription := "Quality report", mayFail := false },
  { path := "/generate", method := "post", name := "generate", tag := "generation"
    summary := "Generate source code from a natural-language request."
    request := some "CodeGenerationRequest", response := some "CodeGenerationResponse"
    responseDescription := "Generated code or validation notes", mayFail := true }]

/-- The groups of operations. -/
def tags : List Json := [
  .object [textMember "name" "generation", textMember "description" "LLM-backed generation"],
  .object [textMember "name" "quality", textMember "description" "Static quality scoring"],
  .object [textMember "name" "system", textMember "description" "System endpoints"]]

/-- The whole document. -/
def document : Json :=
  .object [
    textMember "openapi" "3.0.3",
    ("info", .object [
      textMember "title" "atum-server",
      textMember "description" "",
      ("license", .object [textMember "name" ""]),
      textMember "version" "0.0.1"]),
    ("paths", .object (operations.map fun operation =>
      (operation.path, .object [(operation.method, operation.toJson)]))),
    ("components", .object [
      ("schemas", .object (("Grade", gradeSchema) ::
        records.map fun record => (record.name, record.toJson)))]),
    ("tags", .array tags)]

end ApiDescription

end CodeAssistant
