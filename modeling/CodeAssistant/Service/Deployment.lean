import CodeAssistant.Http.Message
import CodeAssistant.Service.Program

namespace CodeAssistant

/-!
# A service that clients can reach

For a client, a running service is a server like any other: each request that the client sends
arrives at the service, and the response goes back as text.  What the service asks of its own
backend is not visible to the client, except through the response.
-/

namespace Http

/-- The request as it arrives at the server. -/
def Post.arriving (post : Post) : Request :=
  Request.received ⟨"POST", post.url.target, post.headers, post.body.compact.toUTF8⟩

/-- The response as it arrives at the client. -/
def Response.arriving (response : Response) : Answer :=
  ⟨response.status, (response.body.map Json.compact).getD ""⟩

end Http

namespace Service

/-- The service as a server for clients, itself served by `backend`, with its clock at `now`. -/
def asServer (framework : Framework) (urls : Http.UrlReader) (service : Service)
    (backend : Http.Server) (now : Instant) : Http.Server :=
  fun _ post =>
    .answered (backend.conduct (service.respond framework urls now post.arriving) []).1.arriving

end Service

end CodeAssistant
