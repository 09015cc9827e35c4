import CodeAssistant.Command.Arguments

namespace CodeAssistant

/-!
# Further options

The options of a command line do not interfere with each other: what is given before has an effect
only on what may still be given (`givenFrom?_adds`).  So a command line that goes without
`--offline` may start with it, and then asks for the same command without a server
(`ofArguments?_offline`).
-/

theorem CommandOption.give?_eq_some_iff {option : CommandOption} {value : String}
    {given given' : Given} :
    option.give? value given = some given' ↔
      given.lookup option.name = none ∧ given' = (option.name, value) :: given := by
  unfold give?
  cases given.lookup option.name with
  | none => simp [eq_comm]
  | some other => simp

/-- The option can also be given after others that do not include it. -/
theorem CommandOption.give?_append {option : CommandOption} {value : String}
    {given given' extra : Given} (accepted : option.give? value given = some given')
    (apart : extra.lookup option.name = none) :
    option.give? value (given ++ extra) = some (given' ++ extra) := by
  rcases give?_eq_some_iff.mp accepted with ⟨fresh, rfl⟩
  refine give?_eq_some_iff.mpr ⟨?_, rfl⟩
  rw [List.lookup_append, fresh, apart]
  rfl

/-- No option is among both. -/
def Apart (added extra : Given) : Prop :=
  ∀ name, (added.lookup name).isSome → extra.lookup name = none

/-- What is read after `given` adds to it, and adds the same after others that are apart. -/
def Adds (read : Given → Option Given) (given result : Given) : Prop :=
  ∃ added, result = added ++ given ∧
    ∀ extra, Apart added extra → read (given ++ extra) = some (result ++ extra)

/-- One more option, and what is read after it. -/
theorem CommandOption.adds {option : CommandOption} {value : String} {given result : Given}
    {next : Given → Option Given} (read : (option.give? value given).bind next = some result)
    (ih : ∀ given', next given' = some result → Adds next given' result) :
    Adds (fun given => (option.give? value given).bind next) given result := by
  rcases Option.bind_eq_some_iff.mp read with ⟨given', accepted, read'⟩
  rcases ih given' read' with ⟨added, rfl, further⟩
  rcases give?_eq_some_iff.mp accepted with ⟨fresh, rfl⟩
  refine ⟨added ++ [(option.name, value)], by simp, ?_⟩
  intro extra apart
  have own : extra.lookup option.name = none := by
    apply apart
    rw [List.lookup_append, List.lookup_cons_self, Option.isSome_or, Option.isSome_some,
      Bool.or_true]
  have others : Apart added extra := by
    intro name known
    apply apart
    rw [List.lookup_append, Option.isSome_or, known, Bool.true_or]
  dsimp only
  rw [give?_append accepted own, Option.bind_some]
  exact further extra others

/-- Arguments give the same options after others, if they do not give one of these again. -/
theorem givenFrom?_adds {options : List CommandOption} {given result : Given}
    {arguments : List String} (read : givenFrom? options given arguments = some result) :
    Adds (fun given => givenFrom? options given arguments) given result := by
  -- An option may have its value in the same argument, no value, or the next argument as its value:
  -- these are the cases with a hypothesis for the rest.
  fun_induction givenFrom? options given arguments with
  | case1 given =>
    rcases Option.some.inj read with rfl
    exact ⟨[], rfl, fun extra _ => rfl⟩
  | case2 given =>
    rcases Option.some.inj read with rfl
    exact ⟨[], rfl, fun extra _ => rfl⟩
  | case3 => cases read
  | case4 given argument rest single option value found accepts ih =>
    rcases option.adds read ih with ⟨added, whole, further⟩
    refine ⟨added, whole, ?_⟩
    intro extra apart
    dsimp only
    rw [givenFrom?]
    · simp only [found, if_pos accepts]
      exact further extra apart
    · exact single
  | case5 => cases read
  | case6 given argument rest single option found bare ih =>
    rcases option.adds read ih with ⟨added, whole, further⟩
    refine ⟨added, whole, ?_⟩
    intro extra apart
    dsimp only
    rw [givenFrom?]
    · simp only [found, if_pos bare]
      exact further extra apart
    · exact single
  | case7 => cases read
  | case8 given argument option found valued value rest accepts single ih =>
    rcases option.adds read ih with ⟨added, whole, further⟩
    refine ⟨added, whole, ?_⟩
    intro extra apart
    dsimp only
    rw [givenFrom?]
    · simp only [found, if_neg valued, if_pos accepts]
      exact further extra apart
    · exact single
  | case9 => cases read

/-! ## The option to do without a server -/

namespace Command

/-- Who does the generating, if the command needs that. -/
def backend? : Command → Option Backend
  | .tests _ _ _ backend | .docs _ _ _ _ backend | .generate _ _ backend => some backend
  | .version | .quality _ _ _ _ => none

/-- The same command without a server. -/
def offline : Command → Command
  | .tests file language framework _ => .tests file language framework .offline
  | .docs file language projectName output _ => .docs file language projectName output .offline
  | .generate query language _ => .generate query language .offline
  | command => command

end Command

theorem lookup_offline_of_server {environment : Environment} {given : Given} {url : String}
    (server : backendOf environment given = .server url) : given.lookup "offline" = none := by
  rw [backendOf] at server
  cases found : given.lookup "offline" with
  | none => rfl
  | some value =>
    rw [found, Option.isSome_some, if_pos rfl] at server
    cases server

theorem lookup_with_offline {given : Given} {name : String} (other : name ≠ "offline") :
    (given ++ [("offline", "")]).lookup name = given.lookup name := by
  rw [List.lookup_append, List.lookup_cons, beq_false_of_ne other]
  exact Option.or_none

theorem backendOf_with_offline {environment : Environment} {given : Given}
    (absent : given.lookup "offline" = none) :
    backendOf environment (given ++ [("offline", "")]) = .offline := by
  rw [backendOf, List.lookup_append, absent]
  rfl

/-- Options may start with the one to do without a server, unless it comes later. -/
theorem givenFrom?_offline {options : List CommandOption} {given : Given} {arguments : List String}
    (known : optionOf? options "--offline" = some (⟨"offline", none, .nothing⟩, none))
    (read : givenFrom? options [] arguments = some given) (absent : given.lookup "offline" = none) :
    givenFrom? options [] ("--offline" :: arguments) = some (given ++ [("offline", "")]) := by
  rcases givenFrom?_adds read with ⟨added, whole, further⟩
  rw [List.append_nil] at whole
  subst whole
  have apart : Apart given [("offline", "")] := by
    intro name present
    have other : name ≠ "offline" := by
      rintro rfl
      rw [absent] at present
      cases present
    rw [List.lookup_cons, beq_false_of_ne other]
    rfl
  rw [givenFrom?]
  · simp only [known]
    exact further _ apart
  · intro same
    exact absurd same (by decide)

namespace Command

variable {environment : Environment} {arguments : List String} {command : Command} {url : String}

theorem testsOf?_offline (read : testsOf? environment arguments = some command)
    (remote : command.backend? = some (.server url)) :
    testsOf? environment ("--offline" :: arguments) = some command.offline := by
  simp only [testsOf?, Option.bind_eq_bind, Option.bind_eq_some_iff] at read
  rcases read with
    ⟨given, parsed, file, hasFile, language, hasLanguage, framework, hasFramework, same⟩
  rcases Option.some.inj same with rfl
  have absent := lookup_offline_of_server (Option.some.inj remote)
  have parsed' := givenFrom?_offline rfl parsed absent
  simp (disch := decide) only [testsOf?, parsed', Option.bind_eq_bind, Option.bind_some,
    lookup_with_offline, hasFile, hasLanguage, hasFramework, backendOf_with_offline absent]
  rfl

theorem docsOf?_offline (read : docsOf? environment arguments = some command)
    (remote : command.backend? = some (.server url)) :
    docsOf? environment ("--offline" :: arguments) = some command.offline := by
  simp only [docsOf?, Option.bind_eq_bind, Option.bind_eq_some_iff] at read
  rcases read with ⟨given, parsed, file, hasFile, same⟩
  rcases Option.some.inj same with rfl
  have absent := lookup_offline_of_server (Option.some.inj remote)
  have parsed' := givenFrom?_offline rfl parsed absent
  simp (disch := decide) only [docsOf?, parsed', Option.bind_eq_bind, Option.bind_some,
    lookup_with_offline, hasFile, backendOf_with_offline absent]
  rfl

theorem generateOf?_offline (read : generateOf? environment arguments = some command)
    (remote : command.backend? = some (.server url)) :
    generateOf? environment ("--offline" :: arguments) = some command.offline := by
  simp only [generateOf?, Option.bind_eq_bind, Option.bind_eq_some_iff] at read
  rcases read with ⟨given, parsed, query, hasQuery, language, hasLanguage, same⟩
  rcases Option.some.inj same with rfl
  have absent := lookup_offline_of_server (Option.some.inj remote)
  have parsed' := givenFrom?_offline rfl parsed absent
  simp (disch := decide) only [generateOf?, parsed', Option.bind_eq_bind, Option.bind_some,
    lookup_with_offline, hasQuery, hasLanguage, backendOf_with_offline absent]
  rfl

theorem not_server_of_qualityOf? (read : qualityOf? arguments = some command) :
    command.backend? ≠ some (.server url) := by
  simp only [qualityOf?, Option.bind_eq_bind, Option.bind_eq_some_iff] at read
  rcases read with ⟨given, -, file, -, same⟩
  rcases Option.some.inj same with rfl
  intro remote
  cases remote

end Command

/-- The same command, but without a server, is asked for when `--offline` comes first. -/
theorem Command.ofArguments?_offline {environment : Environment} {name : String}
    {arguments : List String} {command : Command} {url : String}
    (read : ofArguments? environment (name :: arguments) = some command)
    (remote : command.backend? = some (.server url)) :
    ofArguments? environment (name :: "--offline" :: arguments) = some command.offline := by
  unfold ofArguments? at read
  split at read
  · cases read
  · next rest same =>
    rcases List.cons.inj same with ⟨rfl, rfl⟩
    exact (not_server_of_qualityOf? read remote).elim
  · next rest same =>
    rcases List.cons.inj same with ⟨rfl, rfl⟩
    exact testsOf?_offline read remote
  · next rest same =>
    rcases List.cons.inj same with ⟨rfl, rfl⟩
    exact docsOf?_offline read remote
  · next rest same =>
    rcases List.cons.inj same with ⟨rfl, rfl⟩
    exact generateOf?_offline read remote
  · split at read
    · rcases Option.some.inj read with rfl
      cases remote
    · cases read

end CodeAssistant
