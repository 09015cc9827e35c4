import CodeAssistant.Generation.Task
import CodeAssistant.Json.Record
import CodeAssistant.Wire.Quality

namespace CodeAssistant

/-!
# Generation requests and responses as JSON

Every field of a request may be missing: a missing text is empty, so that it is the request's own
check of its required fields that reports it.  The fields of a response may not be missing.
-/

namespace TestsRequest

/-- The names of the fields in the order of transmission. -/
def fieldNames : List String :=
  ["code", "language", "framework"]

/-- The request as JSON. -/
def toJson (request : TestsRequest) : Json :=
  .object [
    ("code", .string request.code),
    ("language", .string request.language),
    ("framework", .string request.framework)]

/-- The request that the value spells. -/
def ofJson? (value : Json) : Option TestsRequest := do
  let fields ← value.fields? fieldNames
  return {
    code := ← fields.withDefault "code" "" Json.text?
    language := ← fields.withDefault "language" "" Json.text?
    framework := ← fields.withDefault "framework" "" Json.text? }

end TestsRequest

namespace TestsResponse

/-- The names of the fields in the order of transmission. -/
def fieldNames : List String :=
  ["ok", "tests", "language", "framework", "notes"]

/-- The response as JSON. -/
def toJson (response : TestsResponse) : Json :=
  .object [
    ("ok", .bool response.ok),
    ("tests", .string response.tests),
    ("language", .string response.language),
    ("framework", .string response.framework),
    ("notes", .texts response.notes)]

/-- The response that the value spells. -/
def ofJson? (value : Json) : Option TestsResponse := do
  let fields ← value.fields? fieldNames
  return {
    ok := ← fields.required "ok" Json.bool?
    tests := ← fields.required "tests" Json.text?
    language := ← fields.required "language" Json.text?
    framework := ← fields.required "framework" Json.text?
    notes := ← fields.required "notes" (Json.list? Json.text?) }

end TestsResponse

namespace DocumentRequest

/-- The names of the fields in the order of transmission. -/
def fieldNames : List String :=
  ["code", "language", "project_name"]

/-- The request as JSON. -/
def toJson (request : DocumentRequest) : Json :=
  .object [
    ("code", .string request.code),
    ("language", .textOrNull request.language),
    ("project_name", .textOrNull request.projectName)]

/-- The request that the value spells. -/
def ofJson? (value : Json) : Option DocumentRequest := do
  let fields ← value.fields? fieldNames
  return {
    code := ← fields.withDefault "code" "" Json.text?
    language := ← fields.withDefault "language" none (Json.optional? Json.text?)
    projectName := ← fields.withDefault "project_name" none (Json.optional? Json.text?) }

end DocumentRequest

namespace DocumentResponse

/-- The names of the fields in the order of transmission. -/
def fieldNames : List String :=
  ["ok", "filename", "content", "notes"]

/-- The response as JSON. -/
def toJson (response : DocumentResponse) : Json :=
  .object [
    ("ok", .bool response.ok),
    ("filename", .string response.filename),
    ("content", .string response.content),
    ("notes", .texts response.notes)]

/-- The response that the value spells. -/
def ofJson? (value : Json) : Option DocumentResponse := do
  let fields ← value.fields? fieldNames
  return {
    ok := ← fields.required "ok" Json.bool?
    filename := ← fields.required "filename" Json.text?
    content := ← fields.required "content" Json.text?
    notes := ← fields.required "notes" (Json.list? Json.text?) }

end DocumentResponse

namespace CodeRequest

/-- The names of the fields in the order of transmission. -/
def fieldNames : List String :=
  ["query", "language"]

/-- The request as JSON. -/
def toJson (request : CodeRequest) : Json :=
  .object [
    ("query", .string request.query),
    ("language", .string request.language)]

/-- The request that the value spells. -/
def ofJson? (value : Json) : Option CodeRequest := do
  let fields ← value.fields? fieldNames
  return {
    query := ← fields.withDefault "query" "" Json.text?
    language := ← fields.withDefault "language" "" Json.text? }

end CodeRequest

namespace CodeResponse

/-- The names of the fields in the order of transmission. -/
def fieldNames : List String :=
  ["ok", "query", "language", "generated_code", "notes"]

/-- The response as JSON. -/
def toJson (response : CodeResponse) : Json :=
  .object [
    ("ok", .bool response.ok),
    ("query", .string response.query),
    ("language", .string response.language),
    ("generated_code", .string response.generatedCode),
    ("notes", .texts response.notes)]

/-- The response that the value spells. -/
def ofJson? (value : Json) : Option CodeResponse := do
  let fields ← value.fields? fieldNames
  return {
    ok := ← fields.required "ok" Json.bool?
    query := ← fields.required "query" Json.text?
    language := ← fields.required "language" Json.text?
    generatedCode := ← fields.required "generated_code" Json.text?
    notes := ← fields.required "notes" (Json.list? Json.text?) }

end CodeResponse

namespace TaskResponse

/-- The response as JSON. -/
def toJson : TaskResponse → Json
  | .code response => response.toJson
  | .tests response => response.toJson
  | .document response => response.toJson
  | .quality report => report.toJson

end TaskResponse

end CodeAssistant
