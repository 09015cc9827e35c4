import CodeAssistant.Proofs.Dialogue
import CodeAssistant.Proofs.Wire.RoundTrip
import CodeAssistant.Service.Api
import CodeAssistant.Service.CrossOrigin
import Mathlib.Data.List.Basic
import Mathlib.Data.List.InsertIdx
import Mathlib.Tactic.SplitIfs

namespace CodeAssistant

/-!
# Requests as tasks

The service adds nothing to the tasks.  A request that posts the record of a task is responded to
with the record that the task makes, and all other requests concern nobody: some fetch fixed
contents, the rest is refused.  A session of requests is therefore a session of the tasks that they
post (`session_of_requests`), and to refuse a request leaves no mark on the responses to others.

The conditions on a request are spelt out (`Posts`, `Fetches`), path by path, and do not refer to
the way in which the service looks for an endpoint.  They are conditions on the path and the value
that the web framework finds in the request, whichever framework that is.  A request of the plain
kind that every framework understands posts what its contents spell (`posts_of_text`).
-/

/-- What an element is taken for comes after what those before it are taken for. -/
theorem getElem?_filterMap_take {α β : Type} (take? : α → Option β) {xs : List α} {i : Nat}
    {x : α} {y : β} (found : xs[i]? = some x) (taken : take? x = some y) :
    (xs.filterMap take?)[((xs.take i).filterMap take?).length]? = some y := by
  rcases List.getElem?_eq_some_iff.mp found with ⟨inside, rfl⟩
  have split : xs.filterMap take? =
      (xs.take i).filterMap take? ++ y :: (xs.drop (i + 1)).filterMap take? := by
    rw [← List.filterMap_cons_some taken, ← List.drop_eq_getElem_cons inside,
      ← List.filterMap_append, List.take_append_drop]
  rw [split, List.getElem?_append_right (Nat.le_refl _), Nat.sub_self, List.getElem?_cons_zero]

namespace Http.Request

variable (framework : Framework) (request : Http.Request)

/-- The request posts the record of the task to the path for such tasks. -/
inductive Posts (now : Instant) : Task → Prop
  | code {value : Json} {record : CodeRequest} (method : request.method = "POST")
      (path : framework.path request = "/generate")
      (extracted : framework.extract request = .ok value)
      (decoded : CodeRequest.ofJson? value = some record) : Posts now (.code record)
  | tests {value : Json} {record : TestsRequest} (method : request.method = "POST")
      (path : framework.path request = "/api/v1/generate-tests")
      (extracted : framework.extract request = .ok value)
      (decoded : TestsRequest.ofJson? value = some record) : Posts now (.tests record)
  | document {value : Json} {record : DocumentRequest} (method : request.method = "POST")
      (path : framework.path request = "/api/v1/generate-docs")
      (extracted : framework.extract request = .ok value)
      (decoded : DocumentRequest.ofJson? value = some record) : Posts now (.document record now)
  | quality {value : Json} {record : QualityRequest} (method : request.method = "POST")
      (path : framework.path request = "/api/v1/quality-report")
      (extracted : framework.extract request = .ok value)
      (decoded : QualityRequest.ofJson? value = some record) : Posts now (.quality record)

/-- The request fetches contents that are always the same. -/
inductive Fetches : Json → Prop
  | health (method : request.method = "GET") (path : framework.path request = "/") :
      Fetches (.object [("status", .string "Backend is running")])
  | description (method : request.method = "GET")
      (path : framework.path request = "/api/openapi.json") : Fetches ApiDescription.document

end Http.Request

open Http.Request

variable {framework : Framework} {request : Http.Request} {now : Instant}

/-! ## Endpoints -/

theorem Endpoint.find?_eq_task_iff {method path : String} {kind : TaskKind} :
    Endpoint.find? method path = some (.task kind) ↔ method = "POST" ∧ kind.path = path := by
  rw [Endpoint.find?]
  split_ifs with get root description post
  · simp [get]
  · simp [get]
  · simp [get]
  · rw [Option.map_eq_some_iff]
    constructor
    · rintro ⟨found, search, ⟨⟩⟩
      exact ⟨post, by simpa using List.find?_some search⟩
    · rintro ⟨-, rfl⟩
      exact ⟨kind, TaskKind.ofPath?_path kind, rfl⟩
  · simp [post]

theorem Endpoint.find?_eq_health_iff {method path : String} :
    Endpoint.find? method path = some .health ↔ method = "GET" ∧ path = "/" := by
  rw [Endpoint.find?]
  split_ifs with get root description post <;> simp [*]

theorem Endpoint.find?_eq_description_iff {method path : String} :
    Endpoint.find? method path = some .description ↔
      method = "GET" ∧ path = "/api/openapi.json" := by
  rw [Endpoint.find?]
  split_ifs with get root description post
  · simp [root]
  · simp [get, description]
  · simp [description]
  · simp [get]
  · simp [get]

theorem Http.Request.fetches_iff {contents : Json} :
    request.Fetches framework contents ↔
      (Endpoint.find? request.method (framework.path request) = some .health ∧
        contents = .object [("status", .string "Backend is running")]) ∨
      (Endpoint.find? request.method (framework.path request) = some .description ∧
        contents = ApiDescription.document) := by
  rw [Endpoint.find?_eq_health_iff, Endpoint.find?_eq_description_iff]
  constructor
  · intro fetched
    cases fetched with
    | health method path => exact Or.inl ⟨⟨method, path⟩, rfl⟩
    | description method path => exact Or.inr ⟨⟨method, path⟩, rfl⟩
  · rintro (⟨⟨method, path⟩, rfl⟩ | ⟨⟨method, path⟩, rfl⟩)
    · exact .health method path
    · exact .description method path

/-- Nothing is fetched where another endpoint is found, or none. -/
theorem Http.Request.not_fetches {found : Option Endpoint}
    (looked : Endpoint.find? request.method (framework.path request) = found)
    (notHealth : found ≠ some .health) (notDescription : found ≠ some .description)
    (contents : Json) : ¬request.Fetches framework contents := by
  intro fetched
  rcases fetches_iff.mp fetched with ⟨other, -⟩ | ⟨other, -⟩
  · exact notHealth (looked.symm.trans other)
  · exact notDescription (looked.symm.trans other)

theorem Http.Request.posts_iff {task : Task} :
    request.Posts framework now task ↔
      ∃ kind value, Endpoint.find? request.method (framework.path request) = some (.task kind) ∧
        framework.extract request = .ok value ∧ kind.decode? now value = some task := by
  simp only [Endpoint.find?_eq_task_iff]
  constructor
  · intro posted
    cases posted with
    | code method path extracted decoded =>
      exact ⟨.code, _, ⟨method, path.symm⟩, extracted,
        Option.map_eq_some_iff.mpr ⟨_, decoded, rfl⟩⟩
    | tests method path extracted decoded =>
      exact ⟨.tests, _, ⟨method, path.symm⟩, extracted,
        Option.map_eq_some_iff.mpr ⟨_, decoded, rfl⟩⟩
    | document method path extracted decoded =>
      exact ⟨.document, _, ⟨method, path.symm⟩, extracted,
        Option.map_eq_some_iff.mpr ⟨_, decoded, rfl⟩⟩
    | quality method path extracted decoded =>
      exact ⟨.quality, _, ⟨method, path.symm⟩, extracted,
        Option.map_eq_some_iff.mpr ⟨_, decoded, rfl⟩⟩
  · rintro ⟨kind, value, ⟨method, path⟩, extracted, spells⟩
    cases kind with
    | code =>
      rcases Option.map_eq_some_iff.mp spells with ⟨record, decoded, rfl⟩
      exact .code method path.symm extracted decoded
    | tests =>
      rcases Option.map_eq_some_iff.mp spells with ⟨record, decoded, rfl⟩
      exact .tests method path.symm extracted decoded
    | document =>
      rcases Option.map_eq_some_iff.mp spells with ⟨record, decoded, rfl⟩
      exact .document method path.symm extracted decoded
    | quality =>
      rcases Option.map_eq_some_iff.mp spells with ⟨record, decoded, rfl⟩
      exact .quality method path.symm extracted decoded

/-- A plain request posts the task that its contents spell. -/
theorem Http.Request.posts_of_text {kind : TaskKind} {text : String} {value : Json} {task : Task}
    (method : request.method = "POST") (path : request.path = kind.path)
    (declared : request.header? "content-type" = some "application/json")
    (uncoded : request.header? "content-encoding" = none) (sent : request.body = text.toUTF8)
    (fits : text.utf8ByteSize ≤ maxContentBytes) (spelled : Json.parse? text = some value)
    (decoded : kind.decode? now value = some task) : request.Posts framework now task := by
  have plain : isPlainPath request.path = true := by
    rw [path]
    cases kind <;> decide
  have routed : framework.path request = kind.path := (framework.path_of_plain plain).trans path
  have extracted : framework.extract request = .ok value := by
    rw [framework.extract_of_text declared uncoded sent, readContents,
      if_neg (Nat.not_lt.mpr fits), spelled]
  exact posts_iff.mpr
    ⟨kind, value, Endpoint.find?_eq_task_iff.mpr ⟨method, routed.symm⟩, extracted, decoded⟩

theorem Http.Request.Posts.unique {task other : Task} (posted : request.Posts framework now task)
    (posted' : request.Posts framework now other) : task = other := by
  rcases posts_iff.mp posted with ⟨kind, value, found, extracted, decoded⟩
  rcases posts_iff.mp posted' with ⟨kind', value', found', extracted', decoded'⟩
  rcases Endpoint.task.inj (Option.some.inj (found.symm.trans found')) with rfl
  rcases Except.ok.inj (extracted.symm.trans extracted') with rfl
  exact Option.some.inj (decoded.symm.trans decoded')

/-- Contents that the framework refuses post no task. -/
theorem Http.Request.not_posts {refusal : Refusal}
    (refused : framework.extract request = .error refusal) (task : Task) :
    ¬request.Posts framework now task := by
  intro posted
  rcases posts_iff.mp posted with ⟨kind, value, -, extracted, -⟩
  cases refused.symm.trans extracted

theorem Http.Request.Fetches.not_posts {contents : Json}
    (fetched : request.Fetches framework contents) (task : Task) :
    ¬request.Posts framework now task := by
  intro posted
  rcases posts_iff.mp posted with ⟨kind, value, found, -⟩
  exact not_fetches found (by simp) (by simp) contents fetched

/-! ## One request -/

/-- The task that a request posts, if it posts one. -/
def Http.Request.task? (framework : Framework) (request : Http.Request) (now : Instant) :
    Option Task :=
  match Inquiry.ofRequest framework now request with
  | .ok (.task task) => some task
  | _ => none

/-- The contents of a request are decoded as the record of a task, or the request is refused. -/
theorem Inquiry.taskOf_cases (framework : Framework) (now : Instant) (kind : TaskKind)
    (request : Http.Request) :
    (∃ value task, framework.extract request = .ok value ∧ kind.decode? now value = some task ∧
        Inquiry.taskOf framework now kind request = .ok (.task task)) ∨
      ((∀ value, framework.extract request = .ok value → kind.decode? now value = none) ∧
        ∃ refusal, Inquiry.taskOf framework now kind request = .error refusal) := by
  rw [Inquiry.taskOf]
  cases extracted : framework.extract request with
  | error refusal =>
    refine Or.inr ⟨?_, refusal, rfl⟩
    intro value same
    cases same
  | ok value =>
    dsimp only
    cases decoded : kind.decode? now value with
    | some task => exact Or.inl ⟨value, task, rfl, decoded, rfl⟩
    | none =>
      refine Or.inr ⟨?_, _, rfl⟩
      intro other same
      rcases Except.ok.inj same with rfl
      exact decoded

theorem Refusal.status_range (refusal : Refusal) : 400 ≤ refusal.status ∧ refusal.status ≤ 499 := by
  cases refusal <;> decide

/-- A request posts a task, fetches contents, or is refused. -/
theorem Api.respond_cases (framework : Framework) (model : String) (now : Instant)
    (request : Http.Request) :
    (∃ task, request.Posts framework now task ∧ request.task? framework now = some task ∧
        Api.respond framework model now request =
          (task.consult model).bind fun response => .done (.json response.toJson)) ∨
      (∃ contents, request.Fetches framework contents ∧ request.task? framework now = none ∧
        Api.respond framework model now request = .done (.json contents)) ∨
      ((∀ task, ¬request.Posts framework now task) ∧
        (∀ contents, ¬request.Fetches framework contents) ∧
        request.task? framework now = none ∧ ∃ status, 400 ≤ status ∧ status ≤ 499 ∧
          Api.respond framework model now request = .done (.bare status)) := by
  rw [Api.respond, Http.Request.task?, Inquiry.ofRequest]
  cases found : Endpoint.find? request.method (framework.path request) with
  | none =>
    have unfetched := not_fetches found (by simp) (by simp)
    refine Or.inr (Or.inr ⟨?_, unfetched, rfl, 404, by decide, by decide, rfl⟩)
    intro task posted
    rcases posts_iff.mp posted with ⟨kind, value, other, -⟩
    rw [found] at other
    cases other
  | some endpoint =>
    cases endpoint with
    | health =>
      exact Or.inr (Or.inl ⟨_, fetches_iff.mpr (Or.inl ⟨found, rfl⟩), rfl, rfl⟩)
    | description =>
      exact Or.inr (Or.inl ⟨_, fetches_iff.mpr (Or.inr ⟨found, rfl⟩), rfl, rfl⟩)
    | task kind =>
      dsimp only
      rcases Inquiry.taskOf_cases framework now kind request with
        ⟨value, task, extracted, decoded, accepted⟩ | ⟨undecodable, refusal, refused⟩
      · rw [accepted]
        exact Or.inl ⟨task, posts_iff.mpr ⟨kind, value, found, extracted, decoded⟩, rfl, rfl⟩
      · rw [refused]
        rcases refusal.status_range with ⟨least, greatest⟩
        have unfetched := not_fetches found (by simp) (by simp)
        refine Or.inr (Or.inr ⟨?_, unfetched, rfl, refusal.status, least, greatest, rfl⟩)
        intro task posted
        rcases posts_iff.mp posted with ⟨other, value, same, extracted, decoded⟩
        rw [found] at same
        rcases Endpoint.task.inj (Option.some.inj same) with rfl
        rw [undecodable value extracted] at decoded
        cases decoded

theorem Http.Request.task?_eq_some_iff {task : Task} :
    request.task? framework now = some task ↔ request.Posts framework now task := by
  rcases Api.respond_cases framework "" now request with
    ⟨read, posted, known, -⟩ | ⟨contents, fetched, unknown, -⟩ | ⟨posts, -, unknown, -⟩
  · rw [known, Option.some.injEq]
    constructor
    · rintro rfl
      exact posted
    · exact posted.unique
  · simp [unknown, fetched.not_posts]
  · simp [unknown, posts]

theorem Http.Request.task?_eq_none_iff :
    request.task? framework now = none ↔ ∀ task, ¬request.Posts framework now task := by
  simp only [Option.eq_none_iff_forall_ne_some, ne_eq, task?_eq_some_iff]

theorem Api.respond_of_task {model : String} {task : Task}
    (known : request.task? framework now = some task) :
    Api.respond framework model now request =
      (task.consult model).bind fun response => .done (.json response.toJson) := by
  rcases Api.respond_cases framework model now request with
    ⟨read, -, same, served⟩ | ⟨contents, -, unknown, -⟩ | ⟨-, -, unknown, -⟩
  · rw [known] at same
    rw [served, Option.some.inj same]
  · rw [known] at unknown
    cases unknown
  · rw [known] at unknown
    cases unknown

theorem Api.respond_of_no_task {model : String} (unknown : request.task? framework now = none) :
    ∃ response, Api.respond framework model now request = .done response := by
  rcases Api.respond_cases framework model now request with
    ⟨read, -, known, -⟩ | ⟨contents, -, -, fetched⟩ | ⟨-, -, -, status, -, -, refused⟩
  · rw [unknown] at known
    cases known
  · exact ⟨_, fetched⟩
  · exact ⟨_, refused⟩

/-! ## Pages of other origins -/

/-- What a page gets to see of the response to its request. -/
def CrossOrigin.shown (origins : List String) (request : Http.Request) (response : Http.Response) :
    Http.Response :=
  if isPreflight request then answerPreflight origins request
  else response.withHeaders ((welcomeOrigin? origins request).toList.map allowOrigin)

/-- A preflight is neither posted nor fetched, so it makes no difference that it is not served. -/
theorem CrossOrigin.guard_respond (framework : Framework) (origins : List String)
    (model : String) (now : Instant) (request : Http.Request) :
    guard origins (Api.respond framework model now) request =
      (Api.respond framework model now request).bind fun response =>
        .done (shown origins request response) := by
  by_cases preflight : isPreflight request = true
  · have method : request.method = "OPTIONS" := by
      rw [isPreflight, Bool.and_eq_true, beq_iff_eq] at preflight
      exact preflight.1
    have unknown : Endpoint.find? request.method (framework.path request) = none := by
      rw [method]
      rfl
    have refused : Api.respond framework model now request = .done (.bare 404) := by
      rw [Api.respond, Inquiry.ofRequest, unknown]
      rfl
    rw [refused, Dialogue.bind, guard, if_pos preflight, shown, if_pos preflight]
  · rw [guard, if_neg preflight]
    simp only [shown, if_neg preflight]

/-! ## Responses as text -/

/-- The response to the task that a text spells. -/
def Task.readResponse? (text : String) : Task → Option TaskResponse
  | .code _ => (RecordKind.codeResponse.read? text).map .code
  | .tests _ => (RecordKind.testsResponse.read? text).map .tests
  | .document _ _ => (RecordKind.documentResponse.read? text).map .document
  | .quality _ => (RecordKind.qualityReport.read? text).map .quality

/-- What a task comes to is read back from its text. -/
theorem Task.readResponse?_trace (reply : List Call → Call → Reply) (earlier : List Call)
    (model : String) (task : Task) :
    task.readResponse? (Dialogue.trace reply earlier (task.consult model)).1.toJson.compact =
      some (Dialogue.trace reply earlier (task.consult model)).1 := by
  cases task with
  | code request =>
    rw [consult, Dialogue.trace_bind_done]
    exact congrArg (Option.map TaskResponse.code) (RecordKind.codeResponse.read?_compact _)
  | tests request =>
    rw [consult, Dialogue.trace_bind_done]
    exact congrArg (Option.map TaskResponse.tests) (RecordKind.testsResponse.read?_compact _)
  | document request now =>
    rw [consult, Dialogue.trace_bind_done]
    exact congrArg (Option.map TaskResponse.document) (RecordKind.documentResponse.read?_compact _)
  | quality request =>
    exact congrArg (Option.map TaskResponse.quality) (RecordKind.qualityReport.read?_compact _)

/-! ## Sessions -/

/-- A request is responded to with the outcome of its task, which comes after `before` others in a
session of tasks, or it makes no call.  From the text of the response the outcome can be read. -/
inductive Http.Request.Handled (framework : Framework) (request : Http.Request) (now : Instant)
    (outcomes : List (Task × TaskResponse × List Call)) (before : Nat) :
    Http.Response × List Call → Prop
  | served {task : Task} {response : TaskResponse} {calls : List Call}
      (posted : request.Posts framework now task)
      (done : outcomes[before]? = some (task, response, calls))
      (read : task.readResponse? response.toJson.compact = some response) :
      Handled framework request now outcomes before
        (⟨200, [("content-type", "application/json")], some response.toJson⟩, calls)
  | fetched {contents : Json} (fetched : request.Fetches framework contents) :
      Handled framework request now outcomes before
        (⟨200, [("content-type", "application/json")], some contents⟩, [])
  | refused {status : Nat} (unposted : ∀ task, ¬request.Posts framework now task)
      (unfetched : ∀ contents, ¬request.Fetches framework contents)
      (least : 400 ≤ status) (greatest : status ≤ 499) :
      Handled framework request now outcomes before (⟨status, [], none⟩, [])

/-- A request that posts a task is responded to with the outcome of the task. -/
theorem Http.Request.Posts.served {outcomes : List (Task × TaskResponse × List Call)}
    {before : Nat} {reply : Http.Response × List Call} {task : Task}
    (posted : request.Posts framework now task)
    (handled : request.Handled framework now outcomes before reply) :
    ∃ response calls, outcomes[before]? = some (task, response, calls) ∧
      reply = (⟨200, [("content-type", "application/json")], some response.toJson⟩, calls) ∧
      task.readResponse? response.toJson.compact = some response := by
  cases handled with
  | served same done read =>
    rcases posted.unique same with rfl
    exact ⟨_, _, done, rfl, read⟩
  | fetched fetched => exact absurd posted (fetched.not_posts task)
  | refused unposted => exact absurd posted (unposted task)

/-- A request that neither posts a task nor fetches contents is refused without a call. -/
theorem Http.Request.Handled.refusal {outcomes : List (Task × TaskResponse × List Call)}
    {before : Nat} {reply : Http.Response × List Call}
    (handled : request.Handled framework now outcomes before reply)
    (unposted : ∀ task, ¬request.Posts framework now task)
    (unfetched : ∀ contents, ¬request.Fetches framework contents) :
    ∃ status, 400 ≤ status ∧ status ≤ 499 ∧ reply = (⟨status, [], none⟩, []) := by
  cases handled with
  | served posted => exact absurd posted (unposted _)
  | fetched fetched => exact absurd fetched (unfetched _)
  | refused _ _ least greatest => exact ⟨_, least, greatest, rfl⟩

/-- A request that posts no task could be left out of a session. -/
theorem Api.eraseIdx_session (framework : Framework) (generator : Generator) (model : String)
    (requests : List (Instant × Http.Request)) (i : Fin requests.length)
    (unknown : requests[i].2.task? framework requests[i].1 = none) :
    (Dialogue.session generator.reply [] (requests.map fun request =>
        Api.respond framework model request.1 request.2)).eraseIdx i =
      Dialogue.session generator.reply [] ((requests.eraseIdx i).map fun request =>
        Api.respond framework model request.1 request.2) := by
  rcases Api.respond_of_no_task unknown with ⟨response, same⟩
  have here : requests[(i : Nat)]? = some requests[i] := List.getElem?_eq_getElem i.isLt
  rw [Dialogue.eraseIdx_session _ _ _ _ response, List.eraseIdx_map]
  rw [List.getElem?_map, here, Option.map_some, same]

/-- The calls of a session are those of the session of tasks, and so are the responses to them. -/
theorem Api.session_respond (framework : Framework) (generator : Generator) (model : String)
    (requests : List (Instant × Http.Request)) :
    let replies := Dialogue.session generator.reply []
      (requests.map fun request => Api.respond framework model request.1 request.2)
    let outcomes := Dialogue.session generator.reply []
      ((requests.filterMap fun request => request.2.task? framework request.1).map
        (Task.consult model))
    replies.flatMap Prod.snd = outcomes.flatMap Prod.snd ∧
      ∀ i task, (requests[i]?.bind fun request => request.2.task? framework request.1) =
          some task →
        replies[i]? = outcomes[((requests.take i).filterMap
          fun request => request.2.task? framework request.1).length]?.map
            fun outcome => (.json outcome.1.toJson, outcome.2) :=
  Dialogue.session_accepted generator.reply [] (fun _ _ known => Api.respond_of_task known)
    (fun _ unknown => Api.respond_of_no_task unknown) requests

/-- Every request of a session is handled with the outcomes of the session of tasks. -/
theorem Http.Request.handled_session (framework : Framework) (generator : Generator)
    (model : String) (requests : List (Instant × Http.Request)) (i : Fin requests.length) :
    let tasks := requests.filterMap fun request => request.2.task? framework request.1
    ∃ reply, (Dialogue.session generator.reply [] (requests.map fun request =>
          Api.respond framework model request.1 request.2))[i]? = some reply ∧
      requests[i].2.Handled framework requests[i].1
        (tasks.zip (Dialogue.session generator.reply [] (tasks.map (Task.consult model))))
        ((requests.take i).filterMap fun request => request.2.task? framework request.1).length
        reply := by
  intro tasks
  have here : requests[(i : Nat)]? = some requests[i] := List.getElem?_eq_getElem i.isLt
  have served := Dialogue.getElem?_session_map generator.reply []
    (fun request : Instant × Http.Request => Api.respond framework model request.1 request.2)
    requests i
  rcases Api.respond_cases framework model requests[i].1 requests[i].2 with
    ⟨task, posted, known, -⟩ | ⟨contents, fetched, -, response⟩ |
      ⟨unposted, unfetched, -, status, least, greatest, response⟩
  · have result := (Api.session_respond framework generator model requests).2 i task
      (by rw [here]; exact known)
    have asked : tasks[((requests.take i).filterMap
        fun request => request.2.task? framework request.1).length]? = some task :=
      getElem?_filterMap_take _ here known
    have done := Dialogue.getElem?_session generator.reply [] (tasks.map (Task.consult model))
      ((requests.take i).filterMap fun request => request.2.task? framework request.1).length
    rw [List.getElem?_map, asked, Option.map_some, Option.map_some] at done
    rw [done, Option.map_some, ← Fin.getElem?_fin] at result
    exact ⟨_, result, .served posted (List.getElem?_zip_eq_some.mpr ⟨asked, done⟩)
      (task.readResponse?_trace _ _ model)⟩
  · rw [response, Dialogue.trace_done] at served
    exact ⟨_, served, .fetched fetched⟩
  · rw [response, Dialogue.trace_done] at served
    exact ⟨_, served, .refused unposted unfetched least greatest⟩

/-- The requests of a session are handled like the tasks that they post.  The generator is called as
in the session of these tasks alone, and a request that posts none could be left out.  Pages of
other origins are shown the same responses, except to their preflights. -/
theorem Generator.session_of_requests (framework : Framework) (generator : Generator)
    (model : String) (requests : List (Instant × Http.Request)) :
    let tasksOf := fun requests : List (Instant × Http.Request) =>
      requests.filterMap fun request => request.2.task? framework request.1
    let repliesTo := fun requests : List (Instant × Http.Request) =>
      generator.session [] (requests.map fun request =>
        Api.respond framework model request.1 request.2)
    let outcomes := generator.session [] ((tasksOf requests).map (Task.consult model))
    (repliesTo requests).length = requests.length ∧
      (repliesTo requests).flatMap Prod.snd = outcomes.flatMap Prod.snd ∧
      (∀ now request task, Http.Request.task? framework request now = some task ↔
        request.Posts framework now task) ∧
      (∀ i : Fin requests.length, ∃ reply, (repliesTo requests)[i]? = some reply ∧
        requests[i].2.Handled framework requests[i].1 ((tasksOf requests).zip outcomes)
          (tasksOf (requests.take i)).length reply ∧
        (requests[i].2.task? framework requests[i].1 = none →
          (repliesTo requests).eraseIdx i = repliesTo (requests.eraseIdx i))) ∧
      ∀ origins, generator.session [] (requests.map fun request =>
          CrossOrigin.guard origins (Api.respond framework model request.1) request.2) =
        (requests.zip (repliesTo requests)).map fun (request, reply) =>
          (CrossOrigin.shown origins request.2 reply.1, reply.2) := by
  intro tasksOf repliesTo outcomes
  have traces : ∀ requests, repliesTo requests = Dialogue.session generator.reply []
      (requests.map fun request => Api.respond framework model request.1 request.2) :=
    fun requests => Generator.session_eq _ _ _
  have alone : outcomes = Dialogue.session generator.reply []
      ((tasksOf requests).map (Task.consult model)) := Generator.session_eq _ _ _
  refine ⟨?_, ?_, fun now request task => task?_eq_some_iff, ?_, ?_⟩
  · rw [traces, Dialogue.length_session, List.length_map]
  · rw [traces, alone]
    exact (Api.session_respond framework generator model requests).1
  · intro i
    rcases Http.Request.handled_session framework generator model requests i with
      ⟨reply, served, handled⟩
    rw [traces, traces, alone]
    exact ⟨reply, served, handled, Api.eraseIdx_session framework generator model requests i⟩
  · intro origins
    rw [Generator.session_eq, traces]
    simp only [CrossOrigin.guard_respond]
    exact Dialogue.session_bind_done generator.reply [] _
      (fun request => CrossOrigin.shown origins request.2) requests

/-- A path in code leads to the service, and contents in a code that cannot be undone do not. -/
theorem Generator.session_of_requests_in_code :
    let framework := Framework.standard fun _ _ => none
    let record : CodeRequest := ⟨"add two numbers", "python"⟩
    let contents := record.toJson.compact.toUTF8
    let type : Http.Header := ("content-type", "application/json")
    let garbled : Http.Request :=
      ⟨"POST", "/generate", [type, ("content-encoding", "gzip")], contents⟩
    let posted : Http.Request := ⟨"POST", "/%67enerate", [type], contents⟩
    ∃ status response calls,
      Generator.offline.session [] [Api.respond framework "mistral" .epoch garbled,
          Api.respond framework "mistral" .epoch posted] =
        [(⟨status, [], none⟩, []), (⟨200, [type], some response.toJson⟩, calls)] ∧
      400 ≤ status ∧ status ≤ 499 ∧
      Generator.offline.session [] [(Task.code record).consult "mistral"] = [(response, calls)] ∧
      (Task.code record).readResponse? response.toJson.compact = some response := by
  intro framework record contents type garbled posted
  have coded : garbled.header? "content-encoding" = some "gzip" := by decide
  have extract : framework.extract = Framework.extractWith fun _ _ => none := rfl
  have refused : framework.extract garbled = .error .undecodableContents := by
    rw [extract]
    exact Framework.extractWith_of_garbled (by decide) (by decide) coded (by decide) rfl
  have read : framework.extract posted = .ok record.toJson := by
    rw [framework.extract_of_text (by decide) (by decide) rfl, readContents, if_neg (by decide),
      Json.parse?_compact record.legible_toJson]
  have posts : posted.Posts framework .epoch (.code record) :=
    .code rfl (by decide) read record.ofJson?_toJson
  have unposted : ∀ task, ¬garbled.Posts framework .epoch task := not_posts refused
  have unfetched (contents : Json) : ¬garbled.Fetches framework contents := by
    rintro (⟨method, -⟩ | ⟨method, -⟩) <;> exact absurd method (by decide)
  have unknown : garbled.task? framework .epoch = none := task?_eq_none_iff.mpr unposted
  have known : posted.task? framework .epoch = some (.code record) := task?_eq_some_iff.mpr posts
  rcases session_of_requests framework .offline "mistral"
    [(.epoch, garbled), (.epoch, posted)] with ⟨two, -, -, handled, -⟩
  rcases List.length_eq_two.mp two with ⟨first, second, replies⟩
  have one : (offline.session [] [(Task.code record).consult "mistral"]).length = 1 := by
    rw [session_eq, Dialogue.length_session]
    rfl
  rcases List.length_eq_one_iff.mp one with ⟨outcome, alone⟩
  simp only [List.map_cons, List.map_nil, List.filterMap_cons, List.filterMap_nil, unknown, known,
    alone] at replies handled
  simp only [replies] at handled
  rcases handled ⟨0, Nat.two_pos⟩ with ⟨_, ⟨⟩, refuses, -⟩
  rcases handled ⟨1, Nat.one_lt_two⟩ with ⟨_, ⟨⟩, serves, -⟩
  simp only [List.take_succ_cons, List.take_zero, List.filterMap_cons, List.filterMap_nil,
    unknown] at serves
  rcases refuses.refusal unposted unfetched with ⟨status, least, greatest, rfl⟩
  rcases posts.served serves with ⟨response, calls, ⟨⟩, rfl, spelled⟩
  exact ⟨status, response, calls, replies, least, greatest, alone, spelled⟩

end CodeAssistant
