import CodeAssistant.Proofs.Generation.Brief
import CodeAssistant.Proofs.Json.Assembly
import CodeAssistant.Proofs.Service.Routes
import CodeAssistant.Proofs.Wire.Omission

namespace CodeAssistant

/-!
# Requests with fields left out

A request that leaves fields of its record out is not refused.  It is the request that gives them
their vacant values, and the task itself finds out that a required field is blank: the response is
that of a task, says in its record which field is missing, and was made without any call.
-/

open Json

variable {framework : Framework} {now : Instant}

/-- The key under which a record says what is missing. -/
def TaskKind.remarksKey : TaskKind → String
  | .quality => "suggestions"
  | .code | .tests | .document => "notes"

/-- A task with a blank required field is done at once, and its record names the field. -/
theorem Task.consult_of_missing {task : Task} {field : MissingField}
    (missing : MissingField.first? task.required = some field) (model : String) :
    ∃ response, task.consult model = .done response ∧
      response.toJson.member? "ok" = some (.bool false) ∧
      response.toJson.member? task.kind.remarksKey = some (.texts [field.message]) := by
  have returned {brief : Brief} (briefed : task.brief? = some brief)
      (same : brief.required = task.required) :
      task.consult model = .done (brief.respond false "" field.message) := by
    rw [Task.consult_of_brief briefed, Brief.consult, same, missing]
  cases task with
  | code request => exact ⟨_, returned rfl rfl, rfl, rfl⟩
  | tests request => exact ⟨_, returned rfl rfl, rfl, rfl⟩
  | document request now => exact ⟨_, returned rfl rfl, rfl, rfl⟩
  | quality request =>
    have rejected : QualityReport.ofRequest request = .rejected field := by
      have missing : MissingField.first? [(.code, request.code)] = some field := missing
      rw [QualityReport.ofRequest, missing]
    refine ⟨.quality (.rejected field), ?_, rfl, rfl⟩
    rw [Task.consult, rejected]

/-- A request that posts a task is responded to with the record that the task makes. -/
theorem Generator.consult_of_posts {generator : Generator} {request : Http.Request} {task : Task}
    (posted : request.Posts framework now task) (model : String) (earlier : List Call) :
    generator.consult (Api.respond framework model now request) earlier =
      (.json (generator.consult (task.consult model) earlier).1.toJson,
        (generator.consult (task.consult model) earlier).2) := by
  rw [Api.respond_of_task (Http.Request.task?_eq_some_iff.mpr posted), Generator.consult,
    Dialogue.run_bind]
  rfl

/-- Whatever is left out of an object or an array has the same effect as if it were given its vacant
value, in the record and for the route.  Whichever framework extracts the value, the route responds
with status 200 as long as what is given is of the right kind.  If a required field is left out, one
of the required fields is the first that has no content; then the record says that it is not usable
and why, and no call was made. -/
theorem TaskKind.omissions_are_missing_fields (kind : TaskKind) {value whole : Json}
    {given all : String → Option Json} (gives : kind.Gives value given)
    (complete : kind.Gives whole all)
    (completed : ∀ field ∈ kind.fields, all field.1 = some ((given field.1).getD field.2)) :
    (∀ now, kind.decode? now value = kind.decode? now whole) ∧
      (∀ text now, Assembles text value →
        ((parse? text).bind fun value => kind.decode? now value) = kind.decode? now whole) ∧
      ((∃ field ∈ kind.required, given field.key = none) → ∃ field, kind.Lacks given field) ∧
      ((∀ field ∈ kind.fields, ∀ part, given field.1 = some part → Suits field.2 part) →
        (∀ now, ∃ task, kind.decode? now value = some task) ∧
        ∀ (framework : Framework) (generator : Generator) (model : String) (now : Instant)
          (earlier : List Call) (request : Http.Request), request.method = "POST" →
          framework.path request = kind.path → framework.extract request = .ok value →
          ∃ body calls, generator.consult (Api.respond framework model now request) earlier =
              (⟨200, [("content-type", "application/json")], some body⟩, calls) ∧
            ∀ field, kind.Lacks given field → calls = earlier ∧
              body.member? "ok" = some (.bool false) ∧
              body.member? kind.remarksKey = some (.texts [field.message])) := by
  have same := decode?_of_completed gives complete completed
  refine ⟨same, ?_, exists_lacks, ?_⟩
  · intro text now assembles
    rw [parse?_of_assembles assembles, Option.bind_some, same]
  · intro suitable
    have decodes := exists_task_of_gives gives suitable
    refine ⟨fun now => (decodes now).imp fun _ decoded => decoded.1, ?_⟩
    intro framework generator model now earlier request method path extracted
    rcases decodes now with ⟨task, decoded, sort, required⟩
    have posted : request.Posts framework now task := Http.Request.posts_iff.mpr
      ⟨kind, value, Endpoint.find?_eq_task_iff.mpr ⟨method, path.symm⟩, extracted, decoded⟩
    refine ⟨_, _, generator.consult_of_posts posted model earlier, ?_⟩
    intro field lacks
    have missing : MissingField.first? task.required = some field := by
      rw [required]
      exact first?_required_iff.mpr lacks
    rcases Task.consult_of_missing missing model with ⟨response, done, ok, remarks⟩
    rw [sort] at remarks
    rw [done]
    exact ⟨rfl, ok, remarks⟩

theorem TaskKind.omissions_are_missing_fields_among_others :
    let framework := Framework.standard fun _ _ => none
    let text := "\x7b\"extra\":[\x7b\"code\":1e9\x7d],\"language\":\"Rust\"\x7d"
    let request : Http.Request :=
      ⟨"POST", "/api/v1/generate-tests", [("content-type", "application/json")], text.toUTF8⟩
    ∃ record calls, Generator.offline.consult (Api.respond framework "model" .epoch request) [] =
        (⟨200, [("content-type", "application/json")], some record⟩, calls) ∧ calls = [] ∧
      record.member? "ok" = some (.bool false) ∧
      record.member? "notes" = some (.texts ["Error: Code cannot be empty"]) := by
  intro framework text request
  let extra : Json := .array [.object [("code", .number "1e9")]]
  let members : List (String × Json) := [("extra", extra), ("language", .string "Rust")]
  let whole : List (String × Json) :=
    [("code", .string ""), ("language", .string "Rust"), ("framework", .string "")]
  have nested : Assembles (objectText [("code", "1e9")]) (.object [("code", .number "1e9")]) :=
    .object (.cons ⟨rfl, parse?_compact (.number (by decide))⟩ .nil)
  have inside : Assembles (arrayText [objectText [("code", "1e9")]]) extra :=
    .array (.cons (parse?_of_assembles nested) .nil)
  have outside : Assembles (objectText [("extra", arrayText [objectText [("code", "1e9")]]),
      ("language", "\"Rust\"")]) (.object members) :=
    .object (.cons ⟨rfl, parse?_of_assembles inside⟩
      (.cons ⟨rfl, parse?_compact (.string "Rust")⟩ .nil))
  have written : text = objectText [("extra", arrayText [objectText [("code", "1e9")]]),
      ("language", "\"Rust\"")] := by decide
  have read : framework.extract request = readContents text :=
    framework.extract_of_text (by decide) (by decide) rfl
  have extracted : framework.extract request = .ok (.object members) := by
    rw [read, readContents, if_neg (by decide), written, parse?_of_assembles outside]
  have gives : TaskKind.tests.Gives (.object members) _ := .object (by decide)
  have complete : TaskKind.tests.Gives (.object whole) _ := .object (by decide)
  have completed : ∀ field ∈ TaskKind.tests.fields,
      whole.lookup field.1 = some ((members.lookup field.1).getD field.2) := by
    simp only [fields, List.forall_mem_cons]
    exact ⟨rfl, rfl, rfl, fun _ member => absurd member List.not_mem_nil⟩
  have suitable : ∀ field ∈ TaskKind.tests.fields, ∀ part,
      members.lookup field.1 = some part → Suits field.2 part := by
    simp only [fields, List.forall_mem_cons]
    refine ⟨?_, ?_, ?_, fun _ member => absurd member List.not_mem_nil⟩
    · intro part absent
      cases absent
    · rintro _ ⟨⟩
      exact .text "Rust"
    · intro part absent
      cases absent
  have lacks : TaskKind.tests.Lacks (fun key => members.lookup key) .code := by
    refine ⟨[], [.language, .framework], rfl, by simp, ?_⟩
    rintro ⟨text, present, -⟩
    cases present
  rcases (omissions_are_missing_fields .tests gives complete completed).2.2.2 suitable with
    ⟨-, responds⟩
  rcases responds framework .offline "model" .epoch [] request rfl (by decide) extracted with
    ⟨record, calls, response, missing⟩
  exact ⟨record, calls, response, missing .code lacks⟩

end CodeAssistant
