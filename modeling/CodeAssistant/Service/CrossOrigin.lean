import CodeAssistant.Generation.Generator
import CodeAssistant.Http.Request
import CodeAssistant.Text.Blank

namespace CodeAssistant

/-!
# Requests from web pages

A browser says from which origin a page comes that wants to use the service, and lets the page see
the response only if a header names that origin.  Before a request that could do harm it asks in a
*preflight* whether the origin, the method and the headers are welcome.  A preflight is answered
here and never reaches the service; any other request is served, whatever its origin.
-/

namespace CrossOrigin

/-- The methods that a page may use. -/
def allowedMethods : List String :=
  ["GET", "OPTIONS", "POST"]

/-- The headers that a page may set. -/
def allowedHeaders : List String :=
  ["content-type"]

/-- For how many seconds a browser may remember the answer to a preflight. -/
def maxAge : String := "3600"

/-- Whether the text is the name of a method, known or not. -/
def isMethodName (text : String) : Bool :=
  !text.toList.isEmpty && text.toList.all Http.MediaType.isTokenChar

/-- Whether the request asks for permission to make another one. -/
def isPreflight (request : Http.Request) : Bool :=
  request.method == "OPTIONS" &&
    (request.header? "access-control-request-method").any isMethodName

/-- The origin of the request, if it is one of the given ones. -/
def welcomeOrigin? (origins : List String) (request : Http.Request) : Option String :=
  (request.header? "origin").filter origins.contains

/-- Whether all headers of a list with commas between them may be set. -/
def areHeadersAllowed (list : String) : Bool :=
  (Text.pieces ',' list.toList).all fun piece =>
    allowedHeaders.contains (Http.headerName (String.ofList (Text.trimChars piece)))

/-- Whether a preflight asks only for what a page may do. -/
def isPermissible (request : Http.Request) : Bool :=
  (request.header? "access-control-request-method").any allowedMethods.contains &&
    (request.header? "access-control-request-headers").all areHeadersAllowed

/-- The header that lets a page of the origin see the response. -/
def allowOrigin (origin : String) : Http.Header :=
  ("access-control-allow-origin", origin)

/-- The answer to a preflight. -/
def answerPreflight (origins : List String) (request : Http.Request) : Http.Response :=
  match welcomeOrigin? origins request with
  | some origin =>
    if isPermissible request then
      (Http.Response.bare 200).withHeaders [
        allowOrigin origin,
        ("access-control-allow-methods", Text.join ", " allowedMethods),
        ("access-control-allow-headers", Text.join ", " allowedHeaders),
        ("access-control-max-age", maxAge)]
    else .bare 400
  | none => .bare 400

/-- Serve a request, which may come from a page of any origin. -/
def guard (origins : List String) (serve : Http.Request → Consultation Http.Response)
    (request : Http.Request) : Consultation Http.Response :=
  if isPreflight request then .done (answerPreflight origins request)
  else (serve request).bind fun response =>
    .done (response.withHeaders ((welcomeOrigin? origins request).toList.map allowOrigin))

end CrossOrigin

end CodeAssistant
