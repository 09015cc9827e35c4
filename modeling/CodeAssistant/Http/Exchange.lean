import CodeAssistant.Dialogue
import CodeAssistant.Http.Header
import CodeAssistant.Http.Status
import CodeAssistant.Http.Url
import CodeAssistant.Json.Reading

namespace CodeAssistant
namespace Http

/-!
# Exchanges with an HTTP server

All requests that this library makes are posts of a JSON value.  The server answers with a status
and a text, or closes the connection without an answer.
-/

/-- A request that posts a JSON value. -/
structure Post where
  url : Url
  authorization : Option String
  userAgent : Option String
  body : Json

/-- The answer of a server. -/
structure Answer where
  status : Nat
  body : String
  deriving DecidableEq

/-- What becomes of a request. -/
inductive Outcome where
  | answered (answer : Answer)
  | hangUp
  deriving DecidableEq

/-- A computation that may exchange requests and answers with a server. -/
abbrev Exchange (α : Type) := Dialogue (fun _ : Post => Outcome) α

namespace Answer

/-- The contents of the answer.  Two statuses never carry any. -/
def content (answer : Answer) : String :=
  if answer.status = 204 ∨ answer.status = 304 then "" else answer.body

/-- The contents as text for a reader: without the byte order mark that may precede it. -/
def readableContent (answer : Answer) : String :=
  match answer.content.toList with
  | '\ufeff' :: rest => String.ofList rest
  | _ => answer.content

/-- The record that the contents spell. -/
def decode? (decode : Json → Option α) (answer : Answer) : Option α :=
  (Json.parse? answer.content).bind decode

end Answer

/-- A server: its answer to a request after the earlier requests, oldest first. -/
def Server := List Post → Post → Outcome

namespace Server

/-- The server that gives the outcomes one after the other and hangs up afterwards. -/
def scripted (outcomes : List Outcome) : Server :=
  fun earlier _ => outcomes[earlier.length]?.getD .hangUp

/-- The outcome of a request, and all requests so far. -/
def answer (server : Server) (earlier : List Post) (post : Post) : Outcome × List Post :=
  (server earlier post, earlier ++ [post])

/-- Conduct an exchange after the earlier requests; returns its result and all requests so far. -/
def conduct (server : Server) (exchange : Exchange α) (earlier : List Post) : α × List Post :=
  exchange.run server.answer earlier

/-- Conduct the exchanges in order; returns the result of each and the requests it made. -/
def session (server : Server) (earlier : List Post) :
    List (Exchange α) → List (α × List Post)
  | [] => []
  | exchange :: rest =>
    let outcome := server.conduct exchange earlier
    (outcome.1, outcome.2.drop earlier.length) :: server.session outcome.2 rest

end Server

end Http
end CodeAssistant
