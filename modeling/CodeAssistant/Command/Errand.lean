import CodeAssistant.Service.Endpoint

namespace CodeAssistant

/-!
# Errands

An errand is a request for generation together with everything that must be known to have it done
somewhere: how it is sent to a server, how the answer is read, and how it is done on the spot.  What
a command does with a response is the same for all kinds: it looks at the flag and the notes.
-/

/-- A request whose response is a `ρ`. -/
structure Errand (ρ : Type) where
  kind : TaskKind
  /-- The request as it is sent. -/
  body : Json
  /-- The response that an answer spells. -/
  decode? : Json → Option ρ
  /-- How the request is done with a generator of the given model, at the given time. -/
  consult : String → Instant → Consultation ρ
  /-- Whether the response carries a usable result. -/
  ok : ρ → Bool
  /-- The remarks on the response. -/
  notes : ρ → List String

/-- The errand of a request for code. -/
def CodeRequest.errand (request : CodeRequest) : Errand CodeResponse where
  kind := .code
  body := request.toJson
  decode? := CodeResponse.ofJson?
  consult model _ := request.consult model
  ok := CodeResponse.ok
  notes := CodeResponse.notes

/-- The errand of a request for tests. -/
def TestsRequest.errand (request : TestsRequest) : Errand TestsResponse where
  kind := .tests
  body := request.toJson
  decode? := TestsResponse.ofJson?
  consult model _ := request.consult model
  ok := TestsResponse.ok
  notes := TestsResponse.notes

/-- The errand of a request for a document. -/
def DocumentRequest.errand (request : DocumentRequest) : Errand DocumentResponse where
  kind := .document
  body := request.toJson
  decode? := DocumentResponse.ofJson?
  consult model now := request.consult model now
  ok := DocumentResponse.ok
  notes := DocumentResponse.notes

end CodeAssistant
