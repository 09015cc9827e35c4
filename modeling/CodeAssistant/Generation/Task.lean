import CodeAssistant.Generation.Code
import CodeAssistant.Generation.Document
import CodeAssistant.Generation.Tests
import CodeAssistant.Quality.Report

namespace CodeAssistant

/-!
# Tasks

Everything the assistant can be asked for.  Scoring code needs no generator; the other tasks call it
at most once.
-/

/-- A request of any kind.  A document is stamped with the time at which it is asked for. -/
inductive Task where
  | code (request : CodeRequest)
  | tests (request : TestsRequest)
  | document (request : DocumentRequest) (now : Instant)
  | quality (request : QualityRequest)

/-- The response to a task. -/
inductive TaskResponse where
  | code (response : CodeResponse)
  | tests (response : TestsResponse)
  | document (response : DocumentResponse)
  | quality (report : QualityReport)
  deriving DecidableEq

namespace Task

/-- Do the task with the help of a generator. -/
def consult (model : String) : Task → Consultation TaskResponse
  | .code request => (request.consult model).bind fun response => .done (.code response)
  | .tests request => (request.consult model).bind fun response => .done (.tests response)
  | .document request now =>
    (request.consult model now).bind fun response => .done (.document response)
  | .quality request => .done (.quality (.ofRequest request))

end Task

end CodeAssistant
