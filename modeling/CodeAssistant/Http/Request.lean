import CodeAssistant.Http.Header
import CodeAssistant.Http.MediaType
import CodeAssistant.Json.Value

namespace CodeAssistant
namespace Http

/-!
# Requests to a server and its responses

A request that a server has received names a method and a target, and carries headers and contents.
All contents that this library responds with are JSON, and a response without contents has no
content type either.
-/

/-- A request as a server receives it; without contents the body is empty. -/
structure Request where
  method : String
  target : String
  headers : List Header
  body : ByteArray

/-- What a server responds. -/
structure Response where
  status : Nat
  headers : List Header
  body : Option Json

namespace Request

/-- The path of the target as it is written, without the query. -/
def path (request : Request) : String :=
  String.ofList (request.target.toList.takeWhile (· != '?'))

/-- The value of a header, whose name is given in lower case. -/
def header? (request : Request) (name : String) : Option String :=
  headerValue? request.headers name

/-- Whether the request says that its contents are JSON. -/
def hasJsonType (request : Request) : Bool :=
  ((request.header? "content-type").bind MediaType.parse?).any MediaType.isJson

/-- The request as it arrives when it is sent. -/
def received (request : Request) : Request :=
  { request with headers := request.headers.map fun header => (header.1, receivedValue header.2) }

end Request

namespace Response

/-- A response without contents. -/
def bare (status : Nat) : Response :=
  ⟨status, [], none⟩

/-- The response that all is well, with contents. -/
def json (body : Json) : Response :=
  ⟨200, [("content-type", "application/json")], some body⟩

/-- The response with further headers. -/
def withHeaders (response : Response) (headers : List Header) : Response :=
  { response with headers := response.headers ++ headers }

end Response

end Http
end CodeAssistant
