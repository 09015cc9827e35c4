import CodeAssistant.Number.Numeral
import CodeAssistant.Service.ChatBackend
import CodeAssistant.Service.Environment
import CodeAssistant.Text.Lower

namespace CodeAssistant

/-!
# Settings of the service

The listener and the generation backend are configured by environment variables, each with a
default.  A setting that is a number or names a provider may be wrong; every other text is taken as
it is.  Settings are read in a fixed order, and the first wrong one is reported.
-/

/-- The kinds of generation backend. -/
inductive Provider where
  | ollama | openAi | offline
  deriving DecidableEq, Repr

/-- Why the settings cannot be used. -/
inductive ConfigError where
  /-- The socket number of the listener is wrong. -/
  | socketNumber (fault : NumeralError)
  /-- There is no provider of this name. -/
  | unknownProvider (name : String)
  /-- The time limit of a request is wrong. -/
  | timeout (fault : NumeralError)
  deriving DecidableEq, Repr

namespace ConfigError

/-- The reason in words. -/
def message : ConfigError → String
  | .socketNumber fault => "ATUM_PORT must be a u16 number: " ++ fault.message
  | .unknownProvider name => "unknown LLM provider: " ++ name
  | .timeout fault => "ATUM_LLM_TIMEOUT_SECS must be a number: " ++ fault.message

end ConfigError

namespace Provider

/-- The name under which a provider is reported. -/
def name : Provider → String
  | .ollama => "ollama"
  | .openAi => "openai"
  | .offline => "offline"

/-- The provider of a lower-case name.  No backend at all goes by three names. -/
def ofName? : String → Option Provider
  | "ollama" => some .ollama
  | "openai" => some .openAi
  | "offline" | "mock" | "none" => some .offline
  | _ => none

/-- The provider that a setting names, without regard to case and to blanks around the name. -/
def ofSetting (setting : String) : Except ConfigError Provider :=
  let name := Text.lower (Text.trim setting)
  match ofName? name with
  | some provider => .ok provider
  | none => .error (.unknownProvider name)

theorem ofName?_name (provider : Provider) : ofName? provider.name = some provider := by
  cases provider <;> rfl

end Provider

/-- The number, at most `limit`, that a setting denotes; blanks around it do not count. -/
def numericSetting (limit : Nat) (setting : String) : Except NumeralError Nat :=
  numeral limit (Text.trimChars setting.toList)

/-- The trimmed entries of a list with commas between them; blank entries do not count. -/
def listSetting (setting : String) : List String :=
  ((Text.pieces ',' setting.toList).filterMap fun piece =>
    let entry := Text.trimChars piece
    if entry.isEmpty then none else some (String.ofList entry))

/-- Where the service listens, and which web pages may use it. -/
structure ListenerConfig where
  host : String
  socketNumber : Nat
  allowedOrigins : List String
  deriving DecidableEq, Repr

namespace ListenerConfig

/-- The greatest number of 16 bits. -/
def maxSocketNumber : Nat := 65535

/-- The socket number that the environment sets. -/
def socketNumberOf (environment : Environment) : Except ConfigError Nat :=
  match environment.value? "ATUM_PORT" with
  | some setting => (numericSetting maxSocketNumber setting).mapError .socketNumber
  | none => .ok 8000

/-- The settings of the listener. -/
def ofEnvironment (environment : Environment) : Except ConfigError ListenerConfig :=
  (socketNumberOf environment).map fun socketNumber =>
    { host := environment.valueOr "ATUM_HOST" "127.0.0.1"
      socketNumber := socketNumber
      allowedOrigins := listSetting
        (environment.valueOr "ATUM_UI_ORIGINS" "http://localhost:5173,http://127.0.0.1:5173") }

end ListenerConfig

/-- Which generation backend is used, and how. -/
structure BackendConfig where
  provider : Provider
  model : String
  ollamaUrl : String
  openAiUrl : String
  openAiKey : Option String
  timeoutSeconds : Nat
  deriving DecidableEq, Repr

namespace BackendConfig

/-- The greatest number of 64 bits. -/
def maxTimeoutSeconds : Nat := 18446744073709551615

/-- What is used where nothing is set, apart from the provider. -/
def offline : BackendConfig where
  provider := .offline
  model := "mistral"
  ollamaUrl := "http://127.0.0.1:11434"
  openAiUrl := "https://api.openai.com"
  openAiKey := none
  timeoutSeconds := 120

/-- The provider that the environment names. -/
def providerOf (environment : Environment) : Except ConfigError Provider :=
  match environment.value? "ATUM_LLM_PROVIDER" with
  | some setting => Provider.ofSetting setting
  | none => .ok .ollama

/-- The time limit that the environment sets. -/
def timeoutOf (environment : Environment) : Except ConfigError Nat :=
  match environment.value? "ATUM_LLM_TIMEOUT_SECS" with
  | some setting => (numericSetting maxTimeoutSeconds setting).mapError .timeout
  | none => .ok offline.timeoutSeconds

/-- The key that the environment sets, unless it is blank.  A key is used as it is, with the blanks
around it. -/
def keyOf (environment : Environment) : Option String :=
  (environment.value? "OPENAI_API_KEY").filter fun key => Text.trim key != ""

/-- The settings of the backend.  A wrong provider is reported before a wrong time limit. -/
def ofEnvironment (environment : Environment) : Except ConfigError BackendConfig :=
  (providerOf environment).bind fun provider =>
    (timeoutOf environment).map fun timeoutSeconds =>
      { provider := provider
        model := environment.valueOr "ATUM_LLM_MODEL" offline.model
        ollamaUrl := environment.valueOr "OLLAMA_HOST" offline.ollamaUrl
        openAiUrl := environment.valueOr "OPENAI_API_URL" offline.openAiUrl
        openAiKey := keyOf environment
        timeoutSeconds := timeoutSeconds }

/-- The generator that the settings choose. -/
def backend (config : BackendConfig) : ChatBackend :=
  match config.provider with
  | .ollama => .ollama config.ollamaUrl
  | .openAi => .openAi config.openAiUrl config.openAiKey
  | .offline => .offline

end BackendConfig

end CodeAssistant
