import CodeAssistant.Command.Arguments
import CodeAssistant.Command.Errand
import CodeAssistant.Command.Failure
import CodeAssistant.Http.Exchange

namespace CodeAssistant

/-!
# Commands and their surroundings

Everything that a command does outside itself is one of the actions listed here, so what it leaves
alone can be read off its description.  A command has its errands done by a client: by a server that
is reached over HTTP, or on the spot without any generator.
-/

/-- What a command can have done for it. -/
inductive Action where
  | readFile (path : Path)
  | writeFile (path : Path) (contents : String)
  | lookAtClock
  | send (post : Http.Post)
  /-- Show a remark beside the output. -/
  | note (text : String)
  /-- Add to the output. -/
  | print (text : String)

namespace Action

/-- What a command learns from an action. -/
abbrev Result : Action → Type
  | .readFile _ => Except FileError ByteArray
  | .writeFile _ _ => Except FileError Unit
  | .lookAtClock => Instant
  | .send _ => Http.Outcome
  | .note _ => Unit
  | .print _ => Unit

end Action

/-- A computation that acts on the surroundings of a command and may fail. -/
abbrev Work (α : Type) := ExceptT Failure (Dialogue Action.Result) α

namespace Work

/-- Take one action. -/
def act (action : Action) : Work action.Result :=
  ExceptT.mk (.ask action fun result => .done (.ok result))

/-- The result, or the failure that stands in its place. -/
def ofExcept (result : Except ε α) (failure : ε → Failure) : Work α :=
  ExceptT.mk (.done (result.mapError failure))

/-- The text of a source file. -/
def readText (path : Path) : Work String := do
  let contents ← ofExcept (← act (.readFile path)) .file
  match String.fromUTF8? contents with
  | some text => return text
  | none => throw .notText

/-- Write a file. -/
def writeText (path : Path) (contents : String) : Work Unit := do
  ofExcept (← act (.writeFile path contents)) .file

end Work

/-- Who does the errands of a command. -/
inductive Client where
  | remote (baseUrl : String)
  | offline
  deriving DecidableEq, Repr

namespace Client

/-- The base address in the form in which paths can be added to it: without blanks around it and
without slashes at its end.  A blank address is none. -/
def baseUrl? (url : String) : Option String :=
  let trimmed := Text.trimChars url.toList
  if trimmed = [] then none
  else some (String.ofList (Text.dropEndWhile (· == '/') trimmed))

/-- The client for a backend. -/
def ofBackend : Backend → Except Failure Client
  | .offline => .ok .offline
  | .server url =>
    match baseUrl? url with
    | some baseUrl => .ok (.remote baseUrl)
    | none => .error .serverUrlMissing

/-- The name by which commands introduce themselves to a server. -/
def userAgent : String := "atum-cli"

/-- The model that is named where there is no generator. -/
def offlineModel : String := "offline"

/-- The response that the outcome of a request brings. -/
def responseOf (decode : Json → Option ρ) : Http.Outcome → Except ServerFault ρ
  | .hangUp => .error .transport
  | .answered answer =>
    if Http.isFault answer.status then .error (.status answer.status)
    else match answer.decode? decode with
      | some response => .ok response
      | none => .error .contents

/-- Have an errand done. -/
def fulfil (urls : Http.UrlReader) (errand : Errand ρ) : Client → Work ρ
  | .offline => do
    let now ← Work.act .lookAtClock
    return (Generator.offline.consult (errand.consult offlineModel now) []).1
  | .remote baseUrl =>
    match urls.parse? (baseUrl ++ errand.kind.path) with
    | none => throw (.server .address)
    | some url => do
      let outcome ← Work.act (.send ⟨url, none, some userAgent, errand.body⟩)
      Work.ofExcept (responseOf errand.decode? outcome) .server

/-- Show remarks, one on a line. -/
def showNotes : List String → Work Unit
  | [] => return
  | note :: rest => do
    Work.act (.note ("note: " ++ note ++ "\n"))
    showNotes rest

/-- Have an errand done, and see to it that there is a usable result.  Its remarks are shown, or
else they are the reason of the failure. -/
def obtain (urls : Http.UrlReader) (client : Client) (errand : Errand ρ) : Work ρ := do
  let response ← client.fulfil urls errand
  if errand.ok response then
    showNotes (errand.notes response)
    return response
  else throw (.refused (errand.notes response))

end Client

end CodeAssistant
