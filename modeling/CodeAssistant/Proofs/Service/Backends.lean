import CodeAssistant.Proofs.Generation.Sessions
import CodeAssistant.Proofs.Json.Records
import CodeAssistant.Service.Config

namespace CodeAssistant

/-!
# Generation behind any server

A generator that is reached over HTTP can fail in many ways: there may be no key, no answer, an
answer with a bad status, contents that are not the record, or a record without the text.  For the
task that is all the same.  The outcome of its one request is read as a reply (`ChatBackend.Reads`),
which is the trimmed content of the answer or the remark that the generator is unavailable, and the
task is settled by this reply.

No request influences the response to another.  A server may answer as it likes, with regard to
everything that it has been asked before (`session_over_http`).
-/

open Text

/-! ## Addresses -/

/-- Characters that are dropped at the end of a text do not matter there. -/
theorem Text.dropEndWhile_append_replicate {p : Char → Bool} {stem : List Char} {c : Char}
    (kept : ∀ last, stem.getLast? = some last → p last = false) (dropped : p c = true) (n : Nat) :
    dropEndWhile p (stem ++ List.replicate n c) = stem := by
  have slashes : ∀ x ∈ List.replicate n c, p x = true := by
    intro x member
    rw [List.eq_of_mem_replicate member]
    exact dropped
  rw [dropEndWhile, List.reverse_append, List.reverse_replicate,
    List.dropWhile_append_of_pos slashes]
  cases ending : stem.reverse with
  | nil => rw [List.dropWhile_nil, ← ending, List.reverse_reverse]
  | cons last before =>
    have final : stem.getLast? = some last := by
      rw [List.getLast?_eq_head?_reverse, ending, List.head?_cons]
    rw [List.dropWhile_cons_of_neg (by simp [kept last final]), ← ending, List.reverse_reverse]

namespace ChatBackend

variable {urls : Http.UrlReader}

/-- The address below which the backend is reached. -/
def baseUrl : ChatBackend → String
  | .ollama baseUrl => baseUrl
  | .openAi baseUrl _ => baseUrl
  | .offline => ""

/-- The path of the interface. -/
def path : ChatBackend → String
  | .ollama _ => "/api/chat"
  | .openAi _ _ => "/v1/chat/completions"
  | .offline => ""

/-- The key that is sent with every request. -/
def key? : ChatBackend → Option String
  | .openAi _ key => key
  | _ => none

/-- The configured address without the slashes at its end, with the path of the interface after it,
can be requested over HTTP as `url`, and the key can be sent in a header. -/
structure IsUsable (urls : Http.UrlReader) (backend : ChatBackend) (url : Http.Url) : Prop where
  address : ∃ stem slashes, backend.baseUrl = stem ++ String.ofList (List.replicate slashes '/') ∧
    stem.toList.getLast? ≠ some '/' ∧ urls.parse? (stem ++ backend.path) = some url
  key : ∀ key, backend.key? = some key → Http.isHeaderValue key = true

/-- The only request that is made for a call.  Without a key, or without a backend, none is made. -/
def post? (url : Http.Url) (call : Call) : ChatBackend → Option Http.Post
  | .ollama _ => some ⟨url, none, none, .object [
      ("model", .string call.model),
      ("messages", .array [.object [("role", .string "user"), ("content", .string call.prompt)]]),
      ("stream", .bool false)]⟩
  | .openAi _ (some key) => some ⟨url, some (Http.receivedValue ("Bearer " ++ key)), none, .object [
      ("model", .string call.model),
      ("messages", .array [.object [("role", .string "user"), ("content", .string call.prompt)]])]⟩
  | .openAi _ none => none
  | .offline => none

theorem endpoint_eq {stem : String} (ends : stem.toList.getLast? ≠ some '/') (slashes : Nat)
    (path : String) :
    endpoint (stem ++ String.ofList (List.replicate slashes '/')) path = stem ++ path := by
  have kept : ∀ last, stem.toList.getLast? = some last → (last == '/') = false := by
    intro last final
    rw [final] at ends
    simpa using ends
  rw [endpoint, String.toList_append, String.toList_ofList,
    dropEndWhile_append_replicate kept rfl, String.ofList_toList]

theorem IsUsable.parse {backend : ChatBackend} {url : Http.Url}
    (usable : backend.IsUsable urls url) :
    urls.parse? (endpoint backend.baseUrl backend.path) = some url := by
  rcases usable.address with ⟨stem, slashes, base, ends, parsed⟩
  rw [base, endpoint_eq ends, parsed]

theorem isHeaderValue_bearer {key : String} (legal : Http.isHeaderValue key = true) :
    Http.isHeaderValue ("Bearer " ++ key) = true := by
  rw [Http.isHeaderValue, String.toList_append, List.all_append, Bool.and_eq_true]
  exact ⟨by decide, legal⟩

/-! ## Answers -/

/-- The value is a message with the content, which is absent when it is missing or null. -/
def IsMessage (value : Json) (content : Option String) : Prop :=
  ∃ fields, value.fields? ["content"] = some fields ∧
    ((content = none ∧ fields.lookup "content" = none) ∨
      (content = none ∧ fields.lookup "content" = some .null) ∨
      ∃ text, content = some text ∧ fields.lookup "content" = some (.string text))

/-- The value is one of the choices that an answer offers, with a message of this content. -/
def IsChoice (value : Json) (content : Option String) : Prop :=
  ∃ message, value.HasField "message" message ∧ IsMessage message content

/-- The value is what the backend answers when it has generated the content.  A message without
content stands for the empty text in one interface and for a failure in the other. -/
def Spells (value : Json) (content : String) : ChatBackend → Prop
  | .ollama _ => ∃ message found, value.HasField "message" message ∧ IsMessage message found ∧
      content = found.getD ""
  | .openAi _ _ => ∃ first rest, value.HasField "choices" (.array (first :: rest)) ∧
      IsChoice first (some content) ∧ ∀ choice ∈ rest, ∃ found, IsChoice choice found
  | .offline => False

/-- The outcome of a request is a successful answer with the content. -/
def Carries (backend : ChatBackend) (outcome : Http.Outcome) (content : String) : Prop :=
  ∃ answer value, outcome = .answered answer ∧ 200 ≤ answer.status ∧ answer.status ≤ 299 ∧
    Json.parse? answer.content = some value ∧ backend.Spells value content

/-- How the outcome of a request, if one is made, is read as a reply. -/
inductive Reads (backend : ChatBackend) : Option Http.Outcome → Reply → Prop
  | unasked (message : String) : Reads backend none (.error (.unavailable message))
  | carried {outcome : Http.Outcome} {content text : String}
      (carries : backend.Carries outcome content) (trimmed : text = trim content)
      (stays : trim text = text) : Reads backend (some outcome) (.ok text)
  | failed {outcome : Http.Outcome} (fails : ∀ content, ¬backend.Carries outcome content)
      (message : String) : Reads backend (some outcome) (.error (.unavailable message))

theorem messageContent?_eq_some_iff {value : Json} {content : Option String} :
    messageContent? value = some content ↔ IsMessage value content := by
  unfold messageContent? IsMessage
  rw [Option.bind_eq_bind, Option.bind_eq_some_iff]
  refine exists_congr fun fields => and_congr_right fun _ => ?_
  rw [Json.Fields.withDefault]
  cases found : fields.lookup "content" with
  | none => simp [eq_comm]
  | some part =>
    cases part with
    | null => simp [Json.optional?, eq_comm]
    | string text => simp [Json.optional?, Json.text?, eq_comm]
    | bool => simp [Json.optional?, Json.text?]
    | number => simp [Json.optional?, Json.text?]
    | unreadable => simp [Json.optional?, Json.text?]
    | array => simp [Json.optional?, Json.text?]
    | object => simp [Json.optional?, Json.text?]

theorem ollamaContent?_eq_some_iff {value : Json} {found : Option String} :
    ollamaContent? value = some found ↔
      ∃ message, value.HasField "message" message ∧ IsMessage message found := by
  simp only [ollamaContent?, Option.bind_eq_bind, Json.bind_required_eq_some_iff,
    messageContent?_eq_some_iff]

/-- The content of a choice as it is decoded. -/
def choiceContent? (choice : Json) : Option (Option String) :=
  (choice.fields? ["message"]).bind fun fields => fields.required "message" messageContent?

theorem choiceContent?_eq_some_iff {choice : Json} {found : Option String} :
    choiceContent? choice = some found ↔ IsChoice choice found := by
  simp only [choiceContent?, Json.bind_required_eq_some_iff, messageContent?_eq_some_iff, IsChoice]

/-- The first of the choices counts, but all of them must be choices. -/
theorem choiceContents?_eq_some_cons_iff {value : Json} {found : Option String} :
    (∃ others, choiceContents? value = some (found :: others)) ↔
      ∃ first rest, value.HasField "choices" (.array (first :: rest)) ∧ IsChoice first found ∧
        ∀ choice ∈ rest, ∃ other, IsChoice choice other := by
  have decoded : choiceContents? value = (value.fields? ["choices"]).bind fun fields =>
      fields.required "choices" (Json.list? choiceContent?) := rfl
  simp only [decoded, Json.bind_required_eq_some_iff]
  constructor
  · rintro ⟨others, part, field, items⟩
    cases part with
    | array items' =>
      cases items' with
      | nil => cases items
      | cons first rest =>
        rw [Json.list?, List.mapM_cons] at items
        simp only [Option.bind_eq_bind, Option.bind_eq_some_iff, Option.pure_def,
          Option.some.injEq, List.cons.injEq] at items
        rcases items with ⟨_, head, contents, tail, rfl, rfl⟩
        refine ⟨first, rest, field, choiceContent?_eq_some_iff.mp head, ?_⟩
        intro choice member
        rcases Json.exists_mapM_eq_some_iff.mp ⟨_, tail⟩ choice member with ⟨other, choice⟩
        exact ⟨other, choiceContent?_eq_some_iff.mp choice⟩
    | _ => cases items
  · rintro ⟨first, rest, field, head, tail⟩
    have items : ∀ choice ∈ rest, ∃ other, choiceContent? choice = some other := by
      intro choice member
      rcases tail choice member with ⟨other, choice⟩
      exact ⟨other, choiceContent?_eq_some_iff.mpr choice⟩
    rcases Json.exists_mapM_eq_some_iff.mpr items with ⟨others, all⟩
    refine ⟨others, _, field, ?_⟩
    rw [Json.list?, List.mapM_cons, choiceContent?_eq_some_iff.mpr head, all]
    rfl

/-! ## One request at most -/

/-- The contents of a successful answer are used if they can be decoded.  In all other cases the
generator is unavailable. -/
theorem replyOf_cases (name : String) (decode : Json → Option α) (use : α → Reply)
    (post : Http.Post) (outcome : Http.Outcome) :
    (∃ answer value content, outcome = .answered answer ∧ Http.isSuccess answer.status = true ∧
        Json.parse? answer.content = some value ∧ decode value = some content ∧
        replyOf name decode use post outcome = use content) ∨
      ((∀ answer value, outcome = .answered answer → Http.isSuccess answer.status = true →
          Json.parse? answer.content = some value → decode value = none) ∧
        ∃ message, replyOf name decode use post outcome = .error (.unavailable message)) := by
  cases outcome with
  | hangUp =>
    refine Or.inr ⟨?_, _, rfl⟩
    intro answer value impossible
    cases impossible
  | answered answer =>
    rw [replyOf]
    by_cases success : Http.isSuccess answer.status = true
    · rw [if_pos success, Http.Answer.decode?]
      cases parsed : Json.parse? answer.content with
      | none =>
        refine Or.inr ⟨?_, _, rfl⟩
        rintro _ value ⟨⟩ _ spelled
        rw [parsed] at spelled
        cases spelled
      | some value =>
        rw [Option.bind_some]
        cases decoded : decode value with
        | some content => exact Or.inl ⟨answer, value, content, rfl, success, parsed, decoded, rfl⟩
        | none =>
          refine Or.inr ⟨?_, _, rfl⟩
          rintro _ other ⟨⟩ _ spelled
          rw [parsed] at spelled
          rcases Option.some.inj spelled with rfl
          exact decoded
    · rw [if_neg success]
      refine Or.inr ⟨?_, _, rfl⟩
      rintro _ value ⟨⟩ succeeds
      exact absurd succeeds success

/-- What is made of the messages offered for choice. -/
def firstChoice : List (Option String) → Reply
  | some content :: _ => trimmed content
  | _ => .error (.unavailable "openai response missing choices")

/-- The reply to a call, given the outcome of the request if one is made. -/
def reply (url : Http.Url) : ChatBackend → Option Http.Outcome → Reply
  | .ollama _, some outcome =>
    replyOf "ollama" ollamaContent? (fun content => trimmed (content.getD ""))
      ⟨url, none, none, .null⟩ outcome
  | .openAi _ _, some outcome =>
    replyOf "openai" choiceContents? firstChoice ⟨url, none, none, .null⟩ outcome
  | .openAi _ _, none => .error (.unavailable "OPENAI_API_KEY is required")
  | _, _ => .error .offline

theorem isSuccess_iff {status : Nat} :
    Http.isSuccess status = true ↔ 200 ≤ status ∧ status ≤ 299 := by
  simp [Http.isSuccess]

theorem reads_ollama (url : Http.Url) (baseUrl : String) (outcome : Http.Outcome) :
    Reads (.ollama baseUrl) (some outcome) (reply url (.ollama baseUrl) (some outcome)) := by
  rw [reply]
  rcases replyOf_cases "ollama" ollamaContent? (fun content => trimmed (content.getD ""))
      ⟨url, none, none, .null⟩ outcome with
    ⟨answer, value, found, rfl, success, parsed, decoded, used⟩ | ⟨missing, message, failed⟩
  · rcases ollamaContent?_eq_some_iff.mp decoded with ⟨message, field, content⟩
    rcases isSuccess_iff.mp success with ⟨least, greatest⟩
    rw [used]
    exact .carried
      ⟨answer, value, rfl, least, greatest, parsed, message, found, field, content, rfl⟩
      rfl (trim_trim _)
  · rw [failed]
    refine .failed ?_ message
    rintro content
      ⟨answer, value, answered, least, greatest, parsed, message, found, field, spelled, -⟩
    have decoded := missing answer value answered (isSuccess_iff.mpr ⟨least, greatest⟩) parsed
    rw [ollamaContent?_eq_some_iff.mpr ⟨message, field, spelled⟩] at decoded
    cases decoded

theorem reads_openAi (url : Http.Url) (baseUrl : String) (key : Option String)
    (outcome : Http.Outcome) :
    Reads (.openAi baseUrl key) (some outcome)
      (reply url (.openAi baseUrl key) (some outcome)) := by
  rw [reply]
  rcases replyOf_cases "openai" choiceContents? firstChoice ⟨url, none, none, .null⟩ outcome with
    ⟨answer, value, contents, rfl, success, parsed, decoded, used⟩ | ⟨missing, message, failed⟩
  · rcases isSuccess_iff.mp success with ⟨least, greatest⟩
    -- Any content that the answer carries is the first of the decoded ones.
    have first : ∀ content, Carries (.openAi baseUrl key) (.answered answer) content →
        contents.head? = some (some content) := by
      rintro content ⟨_, other, ⟨⟩, -, -, same, spelled⟩
      rw [parsed] at same
      rcases Option.some.inj same with rfl
      rcases choiceContents?_eq_some_cons_iff.mpr spelled with ⟨others, again⟩
      rw [decoded] at again
      rw [Option.some.inj again, List.head?_cons]
    have unavailable (message : String) (absent : ∀ content, contents.head? ≠ some (some content)) :
        Reads (.openAi baseUrl key) (some (.answered answer)) (.error (.unavailable message)) :=
      .failed (fun content carried => absent content (first content carried)) message
    rw [used]
    cases contents with
    | nil => exact unavailable _ (by simp)
    | cons found others =>
      cases found with
      | none => exact unavailable _ (by simp)
      | some content =>
        exact .carried ⟨answer, value, rfl, least, greatest, parsed,
          choiceContents?_eq_some_cons_iff.mp ⟨others, decoded⟩⟩ rfl (trim_trim _)
  · rw [failed]
    refine .failed ?_ message
    rintro content ⟨answer, value, answered, least, greatest, parsed, spelled⟩
    rcases choiceContents?_eq_some_cons_iff.mpr spelled with ⟨others, again⟩
    have decoded := missing answer value answered (isSuccess_iff.mpr ⟨least, greatest⟩) parsed
    rw [decoded] at again
    cases again

theorem reads_reply (url : Http.Url) (backend : ChatBackend) (outcome : Option Http.Outcome) :
    Reads backend outcome (reply url backend outcome) := by
  cases outcome with
  | none => cases backend <;> exact .unasked _
  | some outcome =>
    cases backend with
    | ollama baseUrl => exact reads_ollama url baseUrl outcome
    | openAi baseUrl key => exact reads_openAi url baseUrl key outcome
    | offline =>
      refine .failed ?_ _
      rintro content ⟨answer, value, -, -, -, -, spelled⟩
      exact spelled

theorem ask_eq {backend : ChatBackend} {url : Http.Url} (usable : backend.IsUsable urls url)
    (call : Call) :
    backend.ask urls call =
      match backend.post? url call with
      | none => .done (reply url backend none)
      | some post => .ask post fun outcome => .done (reply url backend (some outcome)) := by
  have parsed := usable.parse
  cases backend with
  | offline => rfl
  | ollama baseUrl =>
    rw [ChatBackend.baseUrl, path] at parsed
    rw [ask, exchange, parsed]
    rfl
  | openAi baseUrl key =>
    cases key with
    | none => rfl
    | some key =>
      rw [ChatBackend.baseUrl, path] at parsed
      have legal := isHeaderValue_bearer (usable.key key rfl)
      rw [ask, exchange, parsed]
      simp only [Option.all_some, legal, if_true]
      rfl

theorem trace_ask {backend : ChatBackend} {url : Http.Url} (usable : backend.IsUsable urls url)
    (server : Http.Server) (earlier : List Http.Post) (call : Call) :
    Dialogue.trace server.outcome earlier (backend.ask urls call) =
      (reply url backend ((backend.post? url call).map (server.outcome earlier)),
        (backend.post? url call).toList) := by
  rw [ask_eq usable]
  cases backend.post? url call <;> rfl

/-- The generator whose replies are read from the outcomes of the requests. -/
def asGenerator (url : Http.Url) (outcome : Http.Post → Http.Outcome) (backend : ChatBackend) :
    Generator :=
  fun _ call => reply url backend ((backend.post? url call).map outcome)

theorem reply_asGenerator (url : Http.Url) (outcome : Http.Post → Http.Outcome)
    (backend : ChatBackend) (earlier : List Call) (call : Call) :
    (backend.asGenerator url outcome).reply earlier call =
      reply url backend ((backend.post? url call).map outcome) := rfl

/-- A task that is done over HTTP has the response that it has with this generator, and it makes the
requests for the calls to it. -/
theorem trace_consult {backend : ChatBackend} {url : Http.Url} (usable : backend.IsUsable urls url)
    (server : Http.Server) (earlier : List Http.Post) (model : String) (task : Task) :
    let alone := Dialogue.trace (backend.asGenerator url (server.outcome earlier)).reply []
      (task.consult model)
    Dialogue.trace server.outcome earlier (backend.consult urls (task.consult model)) =
      (alone.1, alone.2.filterMap fun call => backend.post? url call) := by
  intro alone
  -- A task makes one call at most, so the generator need not know of any request after `earlier`.
  rcases task.scored_or_briefed with ⟨request, rfl⟩ | ⟨brief, -, consulted⟩
  · rfl
  · simp only [alone, consulted, Brief.consult, consult]
    cases MissingField.first? brief.required with
    | some field => rfl
    | none =>
      simp only [Dialogue.relay, Dialogue.trace_bind_done, trace_ask usable,
        Dialogue.trace_ask_done, List.filterMap_cons, List.filterMap_nil,
        reply_asGenerator]
      cases backend.post? url ⟨model, brief.prompt⟩ <;> rfl

end ChatBackend

/-- There is a fixed way to read the outcome of a request as a reply, and every task of a session is
settled by the reply that is read from the outcome of its own request.  The requests are those of
the calls: one for a complete task, if any can be made, and none for another. -/
theorem Http.Server.session_over_http {urls : Http.UrlReader} {config : BackendConfig}
    {url : Http.Url} (usable : config.backend.IsUsable urls url) :
    ∃ reply : Option Http.Outcome → Reply,
      (∀ outcome, config.backend.Reads outcome (reply outcome)) ∧
      ∀ (server : Http.Server) (tasks : List Task),
        let outcomes := server.session []
          (tasks.map fun task => config.backend.consult urls (task.consult config.model))
        outcomes.length = tasks.length ∧
          ∀ i : Fin tasks.length, ∃ response calls,
            outcomes[i]? =
                some (response, calls.filterMap fun call => config.backend.post? url call) ∧
              Settled (fun call => reply ((config.backend.post? url call).map
                (server.outcome ((outcomes.take i).flatMap Prod.snd)))) config.model tasks[i]
                response calls := by
  refine ⟨ChatBackend.reply url config.backend, ChatBackend.reads_reply url config.backend, ?_⟩
  intro server tasks outcomes
  have traces : outcomes = Dialogue.session server.outcome []
      (tasks.map fun task => config.backend.consult urls (task.consult config.model)) :=
    Http.Server.session_eq _ _ _
  refine ⟨by rw [traces, Dialogue.length_session, List.length_map], ?_⟩
  intro i
  have found : outcomes[i]? = some (Dialogue.trace server.outcome
      ((outcomes.take i).flatMap Prod.snd)
      (config.backend.consult urls (tasks[i].consult config.model))) := by
    rw [traces, Dialogue.getElem?_session_map, List.nil_append]
  rw [ChatBackend.trace_consult usable] at found
  exact ⟨_, _, found, Task.settled_trace (config.backend.asGenerator url
    (server.outcome ((outcomes.take i).flatMap Prod.snd))) [] config.model tasks[i]⟩

/-- A single task with a backend whose address ends in slashes. -/
theorem Http.Server.session_over_http_behind_slashes :
    let config : BackendConfig :=
      { BackendConfig.offline with
        provider := .openAi, openAiUrl := "http://127.0.0.1:9//", openAiKey := some "sk-test" }
    let url : Http.Url := ⟨"http", "127.0.0.1:9", "/v1/chat/completions", none⟩
    config.backend.IsUsable .standard url ∧
      ∃ reply : Option Http.Outcome → Reply,
        (∀ outcome, config.backend.Reads outcome (reply outcome)) ∧
        ∀ (server : Http.Server) (task : Task), ∃ response calls,
          server.session [] [config.backend.consult .standard (task.consult config.model)] =
              [(response, calls.filterMap fun call => config.backend.post? url call)] ∧
            Settled (fun call => reply ((config.backend.post? url call).map (server.outcome [])))
              config.model task response calls := by
  intro config url
  have usable : config.backend.IsUsable .standard url := by
    refine ⟨⟨"http://127.0.0.1:9", 2, by decide, by decide, by decide +kernel⟩, ?_⟩
    rintro key ⟨⟩
    decide
  rcases Http.Server.session_over_http usable with ⟨reply, reads, sessions⟩
  refine ⟨usable, reply, reads, ?_⟩
  intro server task
  rcases sessions server [task] with ⟨length, each⟩
  rcases each ⟨0, Nat.one_pos⟩ with ⟨response, calls, found, settled⟩
  rcases List.length_eq_one_iff.mp length with ⟨only, single⟩
  refine ⟨response, calls, ?_, settled⟩
  rw [List.map_cons, List.map_nil] at single found
  rw [single] at found ⊢
  rw [Option.some.inj found]

end CodeAssistant
