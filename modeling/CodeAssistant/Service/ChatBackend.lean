import CodeAssistant.Generation.Generator
import CodeAssistant.Http.Exchange
import CodeAssistant.Json.Record

namespace CodeAssistant

/-!
# Text generators behind HTTP

Two chat interfaces are understood.  Both receive the prompt as the only message of a conversation
and are posted to below a configured base address, whose trailing slashes do not matter.  Whatever
goes wrong on the way, the generator counts as unavailable, and the message says where it failed.
-/

/-- A generator that is reached over HTTP, or the lack of one. -/
inductive ChatBackend where
  | ollama (baseUrl : String)
  | openAi (baseUrl : String) (apiKey : Option String)
  | offline
  deriving DecidableEq

namespace ChatBackend

/-- The message of a conversation in an answer, whose content may be missing. -/
def messageContent? (value : Json) : Option (Option String) := do
  let fields ← value.fields? ["content"]
  fields.withDefault "content" none (Json.optional? Json.text?)

/-- The content of the only message of an answer. -/
def ollamaContent? (value : Json) : Option (Option String) := do
  let fields ← value.fields? ["message"]
  fields.required "message" messageContent?

/-- The contents of the messages that an answer offers for choice. -/
def choiceContents? (value : Json) : Option (List (Option String)) := do
  let fields ← value.fields? ["choices"]
  fields.required "choices" <| Json.list? fun choice => do
    let fields ← choice.fields? ["message"]
    fields.required "message" messageContent?

/-- The conversation that consists of the prompt. -/
def conversation (prompt : String) : Json :=
  .array [.object [("role", .string "user"), ("content", .string prompt)]]

/-- The address below a base address. -/
def endpoint (baseUrl path : String) : String :=
  String.ofList (Text.dropEndWhile (· == '/') baseUrl.toList) ++ path

/-- The failure with the given message. -/
def failure (backend message : String) : Reply :=
  .error (.unavailable (backend ++ " " ++ message))

/-- The reply that the contents of an answer give. -/
def replyOf (backend : String) (decode : Json → Option α) (use : α → Reply) (post : Http.Post) :
    Http.Outcome → Reply
  | .hangUp =>
    failure backend ("request failed: error sending request for url (" ++ post.url.text ++ ")")
  | .answered answer =>
    if Http.isSuccess answer.status then
      match answer.decode? decode with
      | some content => use content
      | none => failure backend "response decode failed: error decoding response body"
    else
      failure backend
        ("api error (" ++ Http.statusText answer.status ++ "): " ++ answer.readableContent)

/-- The failure to make a request for an address.  The message repeats an address that has the form
of one but cannot be requested over HTTP. -/
def unrequestable (urls : Http.UrlReader) (backend address : String) : Reply :=
  failure backend ("request failed: builder error" ++
    match urls.foreignText? address with
    | some text => " for url (" ++ text ++ ")"
    | none => "")

/-- Post the value to the address and make a reply of the outcome. -/
def exchange (urls : Http.UrlReader) (backend address : String) (authorization : Option String)
    (body : Json) (decode : Json → Option α) (use : α → Reply) : Http.Exchange Reply :=
  match urls.parse? address with
  | some url =>
    if authorization.all Http.isHeaderValue then
      let post : Http.Post := ⟨url, authorization.map Http.receivedValue, none, body⟩
      .ask post fun outcome => .done (replyOf backend decode use post outcome)
    else .done (failure backend "request failed: builder error")
  | none => .done (unrequestable urls backend address)

/-- The trimmed text. -/
def trimmed (content : String) : Reply :=
  .ok (Text.trim content)

/-- Ask the generator. -/
def ask (urls : Http.UrlReader) (call : Call) : ChatBackend → Http.Exchange Reply
  | .ollama baseUrl =>
    exchange urls "ollama" (endpoint baseUrl "/api/chat") none
      (.object [
        ("model", .string call.model),
        ("messages", conversation call.prompt),
        ("stream", .bool false)])
      ollamaContent? fun content => trimmed (content.getD "")
  | .openAi baseUrl (some apiKey) =>
    exchange urls "openai" (endpoint baseUrl "/v1/chat/completions") (some ("Bearer " ++ apiKey))
      (.object [
        ("model", .string call.model),
        ("messages", conversation call.prompt)])
      choiceContents? fun
        | some content :: _ => trimmed content
        | _ => .error (.unavailable "openai response missing choices")
  | .openAi _ none => .done (.error (.unavailable "OPENAI_API_KEY is required"))
  | .offline => .done (.error .offline)

/-- Conduct a consultation with the generator. -/
def consult (urls : Http.UrlReader) (backend : ChatBackend) (consultation : Consultation α) :
    Http.Exchange α :=
  consultation.relay fun call => backend.ask urls call

end ChatBackend

end CodeAssistant
