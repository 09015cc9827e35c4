import CodeAssistant.Proofs.Generation.Brief
import CodeAssistant.Proofs.Json.Reading
import CodeAssistant.Proofs.Service.Routes
import CodeAssistant.Service.Deployment

namespace CodeAssistant

/-!
# A service without a generator

A service whose provider is offline asks nobody, so neither its model nor any server behind it shows
in its responses.  Who posts a legible record of a task to it, not too long, gets an answer whose
contents are the response that the task has without a generator (`asServer_offline`).
-/

/-! ## Requests on their way -/

namespace Http.Post

/-- The names of the headers that may be sent. -/
def headerNames : List String :=
  ["Host", "Accept", "Content-Type", "Content-Length", "Connection", "User-Agent", "Authorization"]

theorem name_mem_headerNames {post : Post} {header : Header} (sent : header ∈ post.headers) :
    header.1 ∈ headerNames := by
  simp only [headers, List.mem_append, List.mem_cons, List.not_mem_nil, or_false,
    List.mem_map] at sent
  rcases sent with ((rfl | rfl | rfl | rfl | rfl) | ⟨_, -, rfl⟩) | ⟨_, -, rfl⟩ <;>
    simp [headerNames]

theorem contentType_arriving (post : Post) :
    post.arriving.header? "content-type" = some "application/json" := by
  have host : (headerName "Host" == "content-type") = false := by decide
  have accept : (headerName "Accept" == "content-type") = false := by decide
  have contentType : (headerName "Content-Type" == "content-type") = true := by decide
  have received : receivedValue "application/json" = "application/json" := by decide
  simp only [arriving, Request.received, Request.header?, headerValue?, headers, List.cons_append,
    List.map_cons, List.find?_cons, host, accept, contentType, Option.map_some, received]

/-- The contents of a request are sent as they are. -/
theorem contentEncoding_arriving (post : Post) :
    post.arriving.header? "content-encoding" = none := by
  have others : (headerNames.all fun name => headerName name != "content-encoding") = true := by
    decide
  rw [Request.header?, headerValue?, Option.map_eq_none_iff, List.find?_eq_none]
  intro header arrived
  rcases List.mem_map.mp arrived with ⟨original, sent, rfl⟩
  simpa using List.all_eq_true.mp others _ (name_mem_headerNames sent)

/-- A question mark in an address ends its path. -/
theorem path_arriving (post : Post) (plain : '?' ∉ post.url.path.toList) :
    post.arriving.path = post.url.path := by
  have before : ∀ c ∈ post.url.path.toList, (c != '?') = true := by
    intro c mem
    rw [bne_iff_ne]
    rintro rfl
    exact plain mem
  have target : post.arriving.target = post.url.target := rfl
  rw [Request.path, target, Url.target, String.toList_append, List.takeWhile_append_of_pos before]
  cases post.url.query with
  | none => exact (congrArg String.ofList (List.append_nil _)).trans String.ofList_toList
  | some query =>
    rw [String.toList_append]
    exact (congrArg String.ofList (List.append_nil _)).trans String.ofList_toList

end Http.Post

/-! ## No generator -/

/-- Nobody is asked, and every call fails. -/
theorem ChatBackend.consult_offline (urls : Http.UrlReader) (consultation : Consultation α)
    (earlier : List Call) :
    ChatBackend.offline.consult urls consultation =
      .done (Dialogue.trace Generator.offline.reply earlier consultation).1 := by
  induction consultation generalizing earlier with
  | done result => rfl
  | ask call next ih => exact ih _ _

/-- Without a generator the model makes no difference. -/
theorem Task.trace_offline (task : Task) (model model' : String) :
    (Dialogue.trace Generator.offline.reply [] (task.consult model)).1 =
      (Dialogue.trace Generator.offline.reply [] (task.consult model')).1 := by
  rcases task.scored_or_briefed with ⟨request, rfl⟩ | ⟨brief, -, consulted⟩
  · rfl
  · rw [consulted, consulted, Brief.consult, Brief.consult]
    cases MissingField.first? brief.required with
    | some field => rfl
    | none => rfl

/-- Who posts a record to the path for it is answered as if the task were done on the spot. -/
theorem Service.asServer_offline (framework : Framework) (urls : Http.UrlReader)
    {service : Service} (offline : service.backend.provider = .offline) (backend : Http.Server)
    (now : Instant) (earlier : List Http.Post) {post : Http.Post} {kind : TaskKind} {task : Task}
    (path : post.url.path = kind.path) (legible : post.body.Legible)
    (fits : post.body.compact.utf8ByteSize ≤ maxContentBytes)
    (decoded : kind.decode? now post.body = some task) (model : String) :
    service.asServer framework urls backend now earlier post =
      .answered ⟨200,
        (Dialogue.trace Generator.offline.reply [] (task.consult model)).1.toJson.compact⟩ := by
  have arrived : post.arriving.path = kind.path := by
    rw [post.path_arriving, path]
    rw [path]
    cases kind <;> decide
  have posted : post.arriving.Posts framework now task :=
    Http.Request.posts_of_text rfl arrived post.contentType_arriving post.contentEncoding_arriving
      rfl fits (Json.parse?_compact legible) decoded
  have known : post.arriving.task? framework now = some task :=
    Http.Request.task?_eq_some_iff.mpr posted
  have alone : service.backend.backend = .offline := by
    rw [BackendConfig.backend, offline]
  rw [Service.asServer, Service.respond, alone, CrossOrigin.guard_respond,
    Api.respond_of_task known, ChatBackend.consult_offline urls _ [], Dialogue.trace_bind_done,
    Dialogue.trace_bind_done, task.trace_offline service.backend.model model]
  rfl

end CodeAssistant
