import CodeAssistant.Generation.Task
import CodeAssistant.Service.Framework
import CodeAssistant.Wire.Generation

namespace CodeAssistant

/-!
# Endpoints of the service

Every kind of task is posted to a path of its own.  Two more paths can be fetched: one says that the
service is running, the other describes the interface.  A request that is meant for none of these,
or whose contents are not the record that the endpoint wants, is refused.  By which path a request
is routed, and what its contents are, is for the web framework to say.
-/

/-- The kinds of task. -/
inductive TaskKind where
  | code | tests | document | quality
  deriving DecidableEq, Repr

namespace TaskKind

/-- The path to which a task of the kind is posted. -/
def path : TaskKind → String
  | .code => "/generate"
  | .tests => "/api/v1/generate-tests"
  | .document => "/api/v1/generate-docs"
  | .quality => "/api/v1/quality-report"

/-- The kind of task that is posted to a path. -/
def ofPath? (path : String) : Option TaskKind :=
  [TaskKind.code, .tests, .document, .quality].find? fun kind => kind.path == path

theorem ofPath?_path (kind : TaskKind) : ofPath? kind.path = some kind := by
  cases kind <;> decide

/-- The task of the kind that the value spells; a document is stamped with the given time. -/
def decode? (now : Instant) (value : Json) : TaskKind → Option Task
  | .code => (CodeRequest.ofJson? value).map .code
  | .tests => (TestsRequest.ofJson? value).map .tests
  | .document => (DocumentRequest.ofJson? value).map fun request => .document request now
  | .quality => (QualityRequest.ofJson? value).map .quality

end TaskKind

/-- What a request can be meant for. -/
inductive Endpoint where
  | health
  | description
  | task (kind : TaskKind)
  deriving DecidableEq, Repr

namespace Endpoint

/-- The endpoint of a method and a path. -/
def find? (method path : String) : Option Endpoint :=
  if method = "GET" then
    if path = "/" then some .health
    else if path = "/api/openapi.json" then some .description
    else none
  else if method = "POST" then (TaskKind.ofPath? path).map .task
  else none

end Endpoint

/-- What an accepted request asks for. -/
inductive Inquiry where
  | health
  | description
  | task (task : Task)

namespace Inquiry

/-- The task of the kind that the contents of a request spell. -/
def taskOf (framework : Framework) (now : Instant) (kind : TaskKind) (request : Http.Request) :
    Except Refusal Inquiry :=
  match framework.extract request with
  | .error refusal => .error refusal
  | .ok value =>
    match kind.decode? now value with
    | some decoded => .ok (.task decoded)
    | none => .error .undecodableContents

/-- What a request, received at the given time, asks for. -/
def ofRequest (framework : Framework) (now : Instant) (request : Http.Request) :
    Except Refusal Inquiry :=
  match Endpoint.find? request.method (framework.path request) with
  | none => .error .unknownEndpoint
  | some .health => .ok .health
  | some .description => .ok .description
  | some (.task kind) => taskOf framework now kind request

end Inquiry

end CodeAssistant
