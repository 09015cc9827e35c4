import CodeAssistant.Service.Api
import CodeAssistant.Service.Config
import CodeAssistant.Service.CrossOrigin
import CodeAssistant.Service.SettingsFile
import CodeAssistant.Text.Quoted

namespace CodeAssistant

/-!
# The service as a program

The program reads its settings and either reports the first wrong one and ends, or announces itself
and responds to requests until it is interrupted.  It keeps nothing between two requests.
-/

namespace ConfigError

/-- The last words of a program whose settings are wrong. -/
def report (error : ConfigError) : String :=
  "Error: Custom \x7b kind: InvalidInput, error: " ++ Text.quote error.message ++ " \x7d"

end ConfigError

/-- The settings of a running service. -/
structure Service where
  listener : ListenerConfig
  backend : BackendConfig

namespace Service

/-- The service that the environment describes.  The listener is configured first. -/
def ofEnvironment (environment : Environment) : Except ConfigError Service :=
  (ListenerConfig.ofEnvironment environment).bind fun listener =>
    (BackendConfig.ofEnvironment environment).map fun backend => ⟨listener, backend⟩

/-- Where the service listens. -/
def address (service : Service) : String :=
  service.listener.host ++ ":" ++ decimal service.listener.socketNumber

/-- What the service announces when it starts. -/
def announcements (service : Service) : List String := [
  "using " ++ service.backend.provider.name ++ " backend with model " ++ service.backend.model,
  "starting Atum server on " ++ service.address]

/-- The response to a request that is received at the given time. -/
def respond (framework : Framework) (urls : Http.UrlReader) (service : Service) (now : Instant)
    (request : Http.Request) : Http.Exchange Http.Response :=
  service.backend.backend.consult urls
    (CrossOrigin.guard service.listener.allowedOrigins
      (Api.respond framework service.backend.model now) request)

end Service

end CodeAssistant
