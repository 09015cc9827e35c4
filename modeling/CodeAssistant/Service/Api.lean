import CodeAssistant.Service.ApiDescription
import CodeAssistant.Service.Endpoint

namespace CodeAssistant

/-!
# Responses of the service

A refused request is responded to with a status alone and calls no generator.  Every other request
is responded to with the record that the task makes, whatever the generator did: that a field is
missing or that the generator failed is said inside the record.
-/

namespace Inquiry

/-- The response to what a request asks for. -/
def respond (model : String) : Inquiry → Consultation Http.Response
  | .health => .done (.json (.object [("status", .string "Backend is running")]))
  | .description => .done (.json ApiDescription.document)
  | .task requested => (requested.consult model).bind fun response => .done (.json response.toJson)

end Inquiry

namespace Api

/-- The response to a request that is received at the given time. -/
def respond (framework : Framework) (model : String) (now : Instant) (request : Http.Request) :
    Consultation Http.Response :=
  match Inquiry.ofRequest framework now request with
  | .ok inquiry => inquiry.respond model
  | .error refusal => .done (.bare refusal.status)

end Api

end CodeAssistant
