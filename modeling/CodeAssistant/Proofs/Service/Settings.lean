import CodeAssistant.Proofs.Number.SettingNumerals
import CodeAssistant.Service.Config

namespace CodeAssistant

/-!
# Settings from variables

A setting that is a number is read as its trimmed numeral, and apart from the name of the provider
such numbers are all that can be wrong.  The name of the provider comes before the time limit.
Every other setting has a value whatever its variable holds, and no setting depends on the variable
of another one (`numericSettings_read`).
-/

open Text

/-! ## Numbers -/

section
variable {ε ε' α : Type}

theorem mapError_inj {f : ε → ε'} (injective : ∀ x y, f x = f y → x = y)
    {first second : Except ε α} : first.mapError f = second.mapError f ↔ first = second := by
  constructor
  · intro same
    cases first with
    | error e =>
      cases second with
      | error e' => exact congrArg Except.error (injective e e' (Except.error.inj same))
      | ok b => cases same
    | ok a =>
      cases second with
      | error e' => cases same
      | ok b => exact congrArg Except.ok (Except.ok.inj same)
  · rintro rfl
    rfl

theorem mapError_mapError {ε'' : Type} (f : ε → ε') (g : ε' → ε'') (result : Except ε α) :
    (result.mapError f).mapError g = result.mapError fun fault => g (f fault) := by
  cases result <;> rfl

end

theorem NumeralError.message_inj (first second : NumeralError)
    (same : first.message = second.message) : first = second := by
  revert same
  cases first <;> cases second <;> decide

/-- A setting is read as the trimmed numeral. -/
theorem numericSetting_eq_iff {limit : Nat} {setting : String} {outcome : Except NumeralError Nat} :
    numericSetting limit setting = outcome ↔ ReadsNumeral limit (trim setting).toList outcome := by
  rw [numericSetting, numeral_eq_iff, toList_trim]

/-- The result is the number that a setting denotes, or the text `start` and the reason in words why
it is none. -/
def ReportsNumeral (limit : Nat) (setting start : String) (result : Except String Nat) : Prop :=
  ∀ outcome : Except NumeralError Nat,
    (result = outcome.mapError fun fault => start ++ fault.message) ↔
      ReadsNumeral limit (trim setting).toList outcome

theorem reportsNumeral_numericSetting (limit : Nat) (setting start : String) :
    ReportsNumeral limit setting start
      ((numericSetting limit setting).mapError fun fault => start ++ fault.message) := by
  intro outcome
  rw [mapError_inj, numericSetting_eq_iff]
  intro first second same
  exact NumeralError.message_inj _ _ ((String.append_right_inj start).mp same)

/-! ## Groups of settings -/

/-- Where a group of settings can be read from two environments that agree on a variable, this part
of it is the same. -/
def DependsOnlyOn (read : Environment → Except ConfigError σ) (part : σ → α) (name : String) :
    Prop :=
  ∀ (first second : Environment) (settings others : σ), read first = .ok settings →
    read second = .ok others → first.value? name = second.value? name → part settings = part others

/-- It is enough that the part is found by looking at nothing but the variable. -/
theorem DependsOnlyOn.of_look {read : Environment → Except ConfigError σ} {part : σ → α}
    {name : String} (look : Environment → Except ConfigError α)
    (found : ∀ environment settings, read environment = .ok settings →
      look environment = .ok (part settings))
    (alone : ∀ first second : Environment, first.value? name = second.value? name →
      look first = look second) : DependsOnlyOn read part name := by
  intro first second settings others readFirst readSecond same
  have looks := alone first second same
  rw [found first settings readFirst, found second others readSecond] at looks
  exact Except.ok.inj looks

/-- It is enough that the part has a value for any value of the variable. -/
theorem DependsOnlyOn.of_value {read : Environment → Except ConfigError σ} {part : σ → α}
    {name : String} (value : Option String → α)
    (found : ∀ environment settings, read environment = .ok settings →
      part settings = value (environment.value? name)) : DependsOnlyOn read part name := by
  intro first second settings others readFirst readSecond same
  rw [found first settings readFirst, found second others readSecond, same]

/-- The names that a setting may give to a provider. -/
def Provider.names : List String :=
  ["ollama", "openai", "offline", "mock", "none"]

theorem Provider.ofName?_eq_none_iff {name : String} : ofName? name = none ↔ name ∉ names := by
  unfold ofName?
  split <;> simp_all [names]

namespace ListenerConfig

/-- Each setting of the listener is the one that its variable sets. -/
structure IsReadFrom (config : ListenerConfig) (environment : Environment) : Prop where
  socketNumber : socketNumberOf environment = .ok config.socketNumber
  host : config.host = environment.valueOr "ATUM_HOST" "127.0.0.1"
  allowedOrigins : config.allowedOrigins = listSetting
    (environment.valueOr "ATUM_UI_ORIGINS" "http://localhost:5173,http://127.0.0.1:5173")

theorem isReadFrom {environment : Environment} {config : ListenerConfig}
    (read : ofEnvironment environment = .ok config) : config.IsReadFrom environment := by
  rw [ofEnvironment] at read
  cases number : socketNumberOf environment with
  | error fault =>
    rw [number] at read
    cases read
  | ok socketNumber =>
    rw [number] at read
    cases read
    exact ⟨number, rfl, rfl⟩

theorem map_socketNumber (environment : Environment) :
    (ofEnvironment environment).map (·.socketNumber) = socketNumberOf environment := by
  rw [ofEnvironment]
  cases socketNumberOf environment <;> rfl

theorem reportsNumeral_socketNumber {environment : Environment} {setting : String}
    (given : environment.value? "ATUM_PORT" = some setting) :
    ReportsNumeral maxSocketNumber setting "ATUM_PORT must be a u16 number: "
      (((ofEnvironment environment).map (·.socketNumber)).mapError ConfigError.message) := by
  rw [map_socketNumber, socketNumberOf, given]
  simp only [mapError_mapError]
  exact reportsNumeral_numericSetting _ _ _

theorem dependsOnlyOn_own :
    DependsOnlyOn ofEnvironment (·.host) "ATUM_HOST" ∧
      DependsOnlyOn ofEnvironment (·.socketNumber) "ATUM_PORT" ∧
      DependsOnlyOn ofEnvironment (·.allowedOrigins) "ATUM_UI_ORIGINS" := by
  refine ⟨.of_value (·.getD "127.0.0.1") fun _ _ read => (isReadFrom read).host,
    .of_look socketNumberOf (fun _ _ read => (isReadFrom read).socketNumber) ?_,
    .of_value (fun value => listSetting
      (value.getD "http://localhost:5173,http://127.0.0.1:5173")) fun _ _ read =>
        (isReadFrom read).allowedOrigins⟩
  intro first second same
  rw [socketNumberOf, socketNumberOf, same]

end ListenerConfig

namespace BackendConfig

theorem ofEnvironment_of_provider_error {environment : Environment} {fault : ConfigError}
    (wrong : providerOf environment = .error fault) :
    ofEnvironment environment = .error fault := by
  rw [ofEnvironment, wrong]
  rfl

theorem map_timeoutSeconds {environment : Environment} {provider : Provider}
    (known : providerOf environment = .ok provider) :
    (ofEnvironment environment).map (·.timeoutSeconds) = timeoutOf environment := by
  rw [ofEnvironment, known, Except.bind]
  cases timeoutOf environment <;> rfl

theorem reportsNumeral_timeoutSeconds {environment : Environment} {provider : Provider}
    {setting : String} (known : providerOf environment = .ok provider)
    (given : environment.value? "ATUM_LLM_TIMEOUT_SECS" = some setting) :
    ReportsNumeral maxTimeoutSeconds setting "ATUM_LLM_TIMEOUT_SECS must be a number: "
      (((ofEnvironment environment).map (·.timeoutSeconds)).mapError ConfigError.message) := by
  rw [map_timeoutSeconds known, timeoutOf, given]
  simp only [mapError_mapError]
  exact reportsNumeral_numericSetting _ _ _

theorem report_unknown_provider {environment : Environment} {name : String}
    (given : environment.value? "ATUM_LLM_PROVIDER" = some name)
    (unknown : lower (trim name) ∉ Provider.names) :
    (ofEnvironment environment).mapError ConfigError.message =
      .error ("unknown LLM provider: " ++ lower (trim name)) := by
  have wrong : providerOf environment = .error (.unknownProvider (lower (trim name))) := by
    rw [providerOf, given]
    simp only [Provider.ofSetting, Provider.ofName?_eq_none_iff.mpr unknown]
  rw [ofEnvironment_of_provider_error wrong]
  rfl

theorem exists_provider {environment : Environment}
    (known : ∀ name, environment.value? "ATUM_LLM_PROVIDER" = some name →
      lower (trim name) ∈ Provider.names) :
    ∃ provider, providerOf environment = .ok provider := by
  rw [providerOf]
  cases named : environment.value? "ATUM_LLM_PROVIDER" with
  | none => exact ⟨.ollama, rfl⟩
  | some name =>
    cases found : Provider.ofName? (lower (trim name)) with
    | none => exact absurd (known name named) (Provider.ofName?_eq_none_iff.mp found)
    | some provider => exact ⟨provider, by simp only [Provider.ofSetting, found]⟩

/-- Each setting of the backend is the one that its variable sets. -/
structure IsReadFrom (config : BackendConfig) (environment : Environment) : Prop where
  provider : providerOf environment = .ok config.provider
  timeoutSeconds : timeoutOf environment = .ok config.timeoutSeconds
  model : config.model = environment.valueOr "ATUM_LLM_MODEL" offline.model
  ollamaUrl : config.ollamaUrl = environment.valueOr "OLLAMA_HOST" offline.ollamaUrl
  openAiUrl : config.openAiUrl = environment.valueOr "OPENAI_API_URL" offline.openAiUrl
  openAiKey : config.openAiKey = keyOf environment

theorem isReadFrom {environment : Environment} {config : BackendConfig}
    (read : ofEnvironment environment = .ok config) : config.IsReadFrom environment := by
  cases known : providerOf environment with
  | error fault =>
    rw [ofEnvironment_of_provider_error known] at read
    cases read
  | ok provider =>
    cases time : timeoutOf environment with
    | error fault =>
      rw [ofEnvironment, known, Except.bind, time] at read
      cases read
    | ok timeoutSeconds =>
      rw [ofEnvironment, known, Except.bind, time] at read
      cases read
      exact ⟨known, time, rfl, rfl, rfl, rfl⟩

theorem dependsOnlyOn_own :
    DependsOnlyOn ofEnvironment (·.provider) "ATUM_LLM_PROVIDER" ∧
      DependsOnlyOn ofEnvironment (·.model) "ATUM_LLM_MODEL" ∧
      DependsOnlyOn ofEnvironment (·.ollamaUrl) "OLLAMA_HOST" ∧
      DependsOnlyOn ofEnvironment (·.openAiUrl) "OPENAI_API_URL" ∧
      DependsOnlyOn ofEnvironment (·.openAiKey) "OPENAI_API_KEY" ∧
      DependsOnlyOn ofEnvironment (·.timeoutSeconds) "ATUM_LLM_TIMEOUT_SECS" := by
  refine ⟨.of_look providerOf (fun _ _ read => (isReadFrom read).provider) ?_,
    .of_value (·.getD offline.model) fun _ _ read => (isReadFrom read).model,
    .of_value (·.getD offline.ollamaUrl) fun _ _ read => (isReadFrom read).ollamaUrl,
    .of_value (·.getD offline.openAiUrl) fun _ _ read => (isReadFrom read).openAiUrl,
    .of_value (·.filter fun key => trim key != "") fun _ _ read => (isReadFrom read).openAiKey,
    .of_look timeoutOf (fun _ _ read => (isReadFrom read).timeoutSeconds) ?_⟩
  · intro first second same
    rw [providerOf, providerOf, same]
  · intro first second same
    rw [timeoutOf, timeoutOf, same]

end BackendConfig

/-- Both numbers among the settings are read as their trimmed numerals, the time limit after the name
of the provider, and what is wrong is reported in words.  No setting depends on the variable of
another one. -/
theorem numericSettings_read :
    (∀ (environment : Environment) (setting : String),
      environment.value? "ATUM_PORT" = some setting →
        ReportsNumeral 65535 setting "ATUM_PORT must be a u16 number: "
          (((ListenerConfig.ofEnvironment environment).map (·.socketNumber)).mapError
            ConfigError.message)) ∧
    (∀ (environment : Environment) (name : String),
      environment.value? "ATUM_LLM_PROVIDER" = some name → lower (trim name) ∉ Provider.names →
        (BackendConfig.ofEnvironment environment).mapError ConfigError.message =
          .error ("unknown LLM provider: " ++ lower (trim name))) ∧
    (∀ (environment : Environment) (setting : String),
      (∀ name, environment.value? "ATUM_LLM_PROVIDER" = some name →
        lower (trim name) ∈ Provider.names) →
      environment.value? "ATUM_LLM_TIMEOUT_SECS" = some setting →
        ReportsNumeral 18446744073709551615 setting "ATUM_LLM_TIMEOUT_SECS must be a number: "
          (((BackendConfig.ofEnvironment environment).map (·.timeoutSeconds)).mapError
            ConfigError.message)) ∧
    (DependsOnlyOn ListenerConfig.ofEnvironment (·.host) "ATUM_HOST" ∧
      DependsOnlyOn ListenerConfig.ofEnvironment (·.socketNumber) "ATUM_PORT" ∧
      DependsOnlyOn ListenerConfig.ofEnvironment (·.allowedOrigins) "ATUM_UI_ORIGINS") ∧
    (DependsOnlyOn BackendConfig.ofEnvironment (·.provider) "ATUM_LLM_PROVIDER" ∧
      DependsOnlyOn BackendConfig.ofEnvironment (·.model) "ATUM_LLM_MODEL" ∧
      DependsOnlyOn BackendConfig.ofEnvironment (·.ollamaUrl) "OLLAMA_HOST" ∧
      DependsOnlyOn BackendConfig.ofEnvironment (·.openAiUrl) "OPENAI_API_URL" ∧
      DependsOnlyOn BackendConfig.ofEnvironment (·.openAiKey) "OPENAI_API_KEY" ∧
      DependsOnlyOn BackendConfig.ofEnvironment (·.timeoutSeconds) "ATUM_LLM_TIMEOUT_SECS") := by
  refine ⟨?_, ?_, ?_, ListenerConfig.dependsOnlyOn_own, BackendConfig.dependsOnlyOn_own⟩
  · exact fun environment setting given => ListenerConfig.reportsNumeral_socketNumber given
  · exact fun environment name given => BackendConfig.report_unknown_provider given
  · intro environment setting known given
    obtain ⟨provider, named⟩ := BackendConfig.exists_provider known
    exact BackendConfig.reportsNumeral_timeoutSeconds named given

/-- Leading zeros and a sign do no harm, and a name that is wrong is reported before a time limit that
is empty. -/
theorem numericSettings_read_mock :
    let environment : Environment :=
      ⟨[("ATUM_LLM_PROVIDER", " Mock "), ("ATUM_LLM_TIMEOUT_SECS", " +0120 ")]⟩
    let misspelt : Environment :=
      ⟨[("ATUM_LLM_PROVIDER", " Mocked "), ("ATUM_LLM_TIMEOUT_SECS", " ")]⟩
    ((BackendConfig.ofEnvironment environment).map (·.timeoutSeconds)).mapError
        ConfigError.message = .ok 120 ∧
      (BackendConfig.ofEnvironment misspelt).mapError ConfigError.message =
        .error "unknown LLM provider: mocked" := by
  intro environment misspelt
  obtain ⟨-, unknown, timeout, -⟩ := numericSettings_read
  have named : environment.value? "ATUM_LLM_PROVIDER" = some " Mock " := by decide
  have known : ∀ name, environment.value? "ATUM_LLM_PROVIDER" = some name →
      lower (trim name) ∈ Provider.names := by
    intro name same
    rw [← Option.some.inj (named.symm.trans same)]
    decide
  have lowered : lower (trim " Mocked ") = "mocked" := by decide
  constructor
  · refine (timeout environment " +0120 " known (by decide) (.ok 120)).mpr ?_
    exact numeral_eq_iff.mp rfl
  · have report := unknown misspelt " Mocked " (by decide) (by decide)
    rwa [lowered] at report

end CodeAssistant
