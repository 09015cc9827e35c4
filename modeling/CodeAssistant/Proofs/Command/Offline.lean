import CodeAssistant.Command.Run
import CodeAssistant.Proofs.Command.Arguments
import CodeAssistant.Proofs.Command.Errands

namespace CodeAssistant

/-!
# Commands without a generator

A command whose errand is done by a service without a generator does the same as with `--offline`
(`runProgram_offline_service`): it ends in the same way, leaves the same files, and prints and notes
the same.  The name that it gives to a document has the time of the clock that was looked at, and
that is all that a clock has to do with it.
-/

/-! ## Commands -/

namespace Command

variable {urls : Http.UrlReader} {here there : Outside} {state other : Surroundings}
variable {client client' : Client}

theorem agreeFrom_runTests (alike : state.Alike other) {file : Path} {language framework : String}
    (fulfilled : ∀ code, state.files.text? file = some code →
      Work.Agree here there Eq
        (client.fulfil urls (TestsRequest.errand ⟨code, language, framework⟩))
        (client'.fulfil urls (TestsRequest.errand ⟨code, language, framework⟩))) :
    Work.AgreeFrom here there state other Eq (runTests urls client file language framework)
      (runTests urls client' file language framework) := by
  apply (Work.agreeFrom_readText alike file).bind
  rintro code _ ⟨rfl, read⟩
  refine (Client.agree_obtain (fulfilled code read) ?_).bind ?_
  · rintro response _ rfl
    exact ⟨rfl, rfl⟩
  · rintro response _ ⟨rfl, -⟩
    exact Work.agree_act (.print _) trivial

/-- Documents with the same contents are written to the same place if their paths agree. -/
theorem agreeFrom_runDocs (alike : state.Alike other) {file : Path}
    {language projectName : Option String} {output output' : Option Path}
    {R : DocumentResponse → DocumentResponse → Prop}
    (fulfilled : ∀ code, state.files.text? file = some code →
      Work.Agree here there R
        (client.fulfil urls
          (DocumentRequest.errand ⟨code, language.or file.language?, projectName⟩))
        (client'.fulfil urls
          (DocumentRequest.errand ⟨code, language.or file.language?, projectName⟩)))
    (same : ∀ response response', R response response' →
      response.ok = response'.ok ∧ response.notes = response'.notes ∧
        response.content = response'.content ∧
        (response.ok = true →
          output.getD ⟨response.filename⟩ = output'.getD ⟨response'.filename⟩)) :
    Work.AgreeFrom here there state other Eq (runDocs urls client file language projectName output)
      (runDocs urls client' file language projectName output') := by
  apply (Work.agreeFrom_readText alike file).bind
  rintro code _ ⟨rfl, read⟩
  refine (Client.agree_obtain (fulfilled code read) ?_).bind ?_
  · intro response response' related
    rcases same response response' related with ⟨flag, notes, -⟩
    exact ⟨flag, notes⟩
  · rintro response response' ⟨related, usable⟩
    rcases same response response' related with ⟨-, -, content, path⟩
    dsimp only
    rw [← content, ← path usable]
    exact (Work.agree_writeText _ _).bind fun _ _ _ => Work.agree_act (.print _) trivial

theorem agree_runGenerate {query language : String}
    (fulfilled : Work.Agree here there Eq
      (client.fulfil urls (CodeRequest.errand ⟨query, language⟩))
      (client'.fulfil urls (CodeRequest.errand ⟨query, language⟩))) :
    Work.Agree here there Eq (runGenerate urls client query language)
      (runGenerate urls client' query language) := by
  refine (Client.agree_obtain fulfilled ?_).bind ?_
  · rintro response _ rfl
    exact ⟨rfl, rfl⟩
  · rintro response _ ⟨rfl, -⟩
    exact Work.agree_act (.print _) trivial

/-- The contents of the request that a command makes, if it comes to that. -/
def request? (files : FileSystem) : Command → Option Json
  | .tests file language framework _ =>
    (files.text? file).map fun code => (TestsRequest.mk code language framework).toJson
  | .docs file language projectName _ _ =>
    (files.text? file).map fun code =>
      (DocumentRequest.mk code (language.or file.language?) projectName).toJson
  | .generate query language _ => some (CodeRequest.mk query language).toJson
  | .version | .quality _ _ _ _ => none

/-- A service without a generator is no different from none. -/
theorem agreeFrom_run_offline {command : Command} {url : String}
    (remote : command.backend? = some (.server url)) (leads : LeadsToService urls url)
    {framework : Framework} {service : Service} (offline : service.backend.provider = .offline)
    {backend : Http.Server}
    (served : here.server = service.asServer framework urls backend there.clock)
    (alike : state.Alike other)
    (fits : ∀ body, command.request? state.files = some body →
      body.compact.utf8ByteSize ≤ maxContentBytes) :
    Work.AgreeFrom here there state other Eq (command.run urls) (command.offline.run urls) := by
  rcases leads with ⟨base, hasBase, reaches⟩
  have remotely : Client.ofBackend (.server url) = .ok (.remote base) := by
    rw [Client.ofBackend, hasBase]
  cases command with
  | version => cases remote
  | quality file language format output => cases remote
  | tests file language framework backend =>
    rcases Option.some.inj remote with rfl
    rcases reaches .tests with ⟨address, parsed, path⟩
    rw [run, remotely, Work.ofExcept_ok_bind]
    apply agreeFrom_runTests alike
    intro code read
    apply Client.agree_fulfil (TestsRequest.transmits_errand _) offline served parsed path
    exact fits _ (Option.map_eq_some_iff.mpr ⟨code, read, rfl⟩)
  | docs file language projectName output backend =>
    rcases Option.some.inj remote with rfl
    rcases reaches .document with ⟨address, parsed, path⟩
    rw [run, remotely, Work.ofExcept_ok_bind]
    refine agreeFrom_runDocs (R := Eq) alike ?_ ?_
    · intro code read
      apply Client.agree_fulfil (DocumentRequest.transmits_errand _) offline served parsed path
      exact fits _ (Option.map_eq_some_iff.mpr ⟨code, read, rfl⟩)
    · rintro response _ rfl
      exact ⟨rfl, rfl, rfl, fun _ => rfl⟩
  | generate query language backend =>
    rcases Option.some.inj remote with rfl
    rcases reaches .code with ⟨address, parsed, path⟩
    rw [run, remotely, Work.ofExcept_ok_bind]
    refine agree_runGenerate ?_ state other alike
    exact Client.agree_fulfil (CodeRequest.transmits_errand _) offline served parsed path
      (fits _ rfl)

/-- The command whose document is called as it would be at the given time. -/
def named (now : Instant) : Command → Command
  | .docs file language projectName none backend =>
    .docs file language projectName
      (some ⟨documentFilename (labelOr "Proyecto Atum" projectName) now⟩) backend
  | command => command

end Command

/-! ## Names of documents -/

namespace Command

variable {urls : Http.UrlReader} {here there : Outside} {state other : Surroundings}

/-- Without a server, a command depends on the clock only for the name of a document. -/
theorem agreeFrom_run_named {command : Command} (alone : command.backend? = some .offline)
    (alike : state.Alike other) :
    Work.AgreeFrom here there state other Eq (command.run urls)
      ((command.named here.clock).run urls) := by
  have unserved : Client.ofBackend .offline = .ok .offline := rfl
  cases command with
  | version => cases alone
  | quality file language format output => cases alone
  | tests file language framework backend =>
    rcases Option.some.inj alone with rfl
    have unnamed : (tests file language framework .offline).named here.clock =
      tests file language framework .offline := rfl
    rw [unnamed, run, unserved, Work.ofExcept_ok_bind]
    apply agreeFrom_runTests alike
    intro code read
    exact Client.agree_fulfil_offline (TestsRequest.unaided_errand _ _ _)
  | generate query language backend =>
    rcases Option.some.inj alone with rfl
    have unnamed : (generate query language .offline).named here.clock =
      generate query language .offline := rfl
    rw [unnamed, run, unserved, Work.ofExcept_ok_bind]
    refine agree_runGenerate ?_ state other alike
    exact Client.agree_fulfil_offline (CodeRequest.unaided_errand _ _ _)
  | docs file language projectName output backend =>
    rcases Option.some.inj alone with rfl
    have given : (docs file language projectName output .offline).named here.clock =
        docs file language projectName
          (some (output.getD ⟨documentFilename (labelOr "Proyecto Atum" projectName) here.clock⟩))
          .offline := by
      cases output <;> rfl
    rw [given, run, unserved, Work.ofExcept_ok_bind]
    have fulfilled : ∀ code, state.files.text? file = some code → Work.Agree here there
        (fun response response' => ∃ request : DocumentRequest, request.projectName = projectName ∧
          response = request.errand.unaided here.clock ∧
          response' = request.errand.unaided there.clock)
        (Client.offline.fulfil urls
          (DocumentRequest.errand ⟨code, language.or file.language?, projectName⟩))
        (Client.offline.fulfil urls
          (DocumentRequest.errand ⟨code, language.or file.language?, projectName⟩)) :=
      fun code _ => Client.agree_fulfil_offline ⟨_, rfl, rfl, rfl⟩
    apply agreeFrom_runDocs alike fulfilled
    rintro _ _ ⟨request, rfl, rfl, rfl⟩
    rcases request.unaided_errand with ⟨ok, content, notes, timed⟩
    rw [timed, timed]
    refine ⟨rfl, rfl, rfl, ?_⟩
    rintro rfl
    rfl

end Command

/-! ## The program -/

theorem Work.Corresponds.ending_eq {result result' : Except Failure Unit}
    (same : Work.Corresponds Eq result result') :
    Ending.ofResult result = Ending.ofResult result' := by
  cases same with
  | ok _ => rfl
  | error failure => rfl

namespace Command

/-- Carry out the command as the program does. -/
def program (urls : Http.UrlReader) (command : Command) : Dialogue Action.Result Ending :=
  (command.run urls).run.bind fun result => .done (.ofResult result)

theorem conduct_program (urls : Http.UrlReader) (outside : Outside) (command : Command)
    (state : Surroundings) :
    Surroundings.conduct outside.server outside.clock (command.program urls) state =
      (.ofResult (outside.perform (command.run urls) state).1,
        (outside.perform (command.run urls) state).2) := by
  rw [program, Surroundings.conduct, Dialogue.run_bind]
  rfl

theorem conduct_program_of_agree {urls : Http.UrlReader} {here there : Outside}
    {state other : Surroundings} {command command' : Command}
    (agree : Work.AgreeFrom here there state other Eq (command.run urls) (command'.run urls)) :
    (Surroundings.conduct here.server here.clock (command.program urls) state).1 =
        (Surroundings.conduct there.server there.clock (command'.program urls) other).1 ∧
      (Surroundings.conduct here.server here.clock (command.program urls) state).2.Alike
        (Surroundings.conduct there.server there.clock (command'.program urls) other).2 := by
  rw [conduct_program, conduct_program]
  exact ⟨agree.1.ending_eq, agree.2⟩

theorem backend?_offline {command : Command} {backend : Backend}
    (generates : command.backend? = some backend) : command.offline.backend? = some .offline := by
  cases command with
  | version => cases generates
  | quality file language format output => cases generates
  | tests file language framework backend => rfl
  | docs file language projectName output backend => rfl
  | generate query language backend => rfl

end Command

/-- A command that is carried out with a service without a generator ends in the same way, leaves
the same files, and has printed and noted the same as with `--offline`, if the clock of the service
is looked at.  Another clock makes a difference only for the name that a document gets where none is
given: either way the command is the one with the name for the time of the clock. -/
theorem runProgram_offline_service {urls : Http.UrlReader} {environment : Environment}
    {name : String} {arguments : List String} {command : Command} {url : String}
    (read : Command.ofArguments? environment (name :: arguments) = some command)
    (remote : command.backend? = some (.server url)) (leads : LeadsToService urls url)
    (framework : Framework) {service : Service} (offline : service.backend.provider = .offline)
    {files : FileSystem}
    (fits : ∀ body, command.request? files = some body → body.compact.utf8ByteSize ≤ 2097152)
    (backend elsewhere : Http.Server) (received clock : Instant) :
    let remotely := Surroundings.conduct (service.asServer framework urls backend received) clock
      (runProgram urls environment (name :: arguments)) (.initial files)
    let locally := fun now => Surroundings.conduct elsewhere now
      (runProgram urls environment (name :: "--offline" :: arguments)) (.initial files)
    let named := fun now later => Surroundings.conduct elsewhere later
      ((command.offline.named now).program urls) (.initial files)
    (remotely.1 = (locally received).1 ∧ remotely.2.Alike (locally received).2) ∧
      ∀ now later, (locally now).1 = (named now later).1 ∧
        (locally now).2.Alike (named now later).2 := by
  intro remotely locally named
  have alike : (Surroundings.initial files).Alike (.initial files) := ⟨rfl, rfl, rfl⟩
  have asked : runProgram urls environment (name :: arguments) = command.program urls := by
    rw [runProgram, read]
    rfl
  have spared : runProgram urls environment (name :: "--offline" :: arguments) =
      command.offline.program urls := by
    rw [runProgram, Command.ofArguments?_offline read remote]
    rfl
  dsimp only [remotely, locally, named]
  rw [asked, spared]
  constructor
  · have agree : Work.AgreeFrom ⟨service.asServer framework urls backend received, clock⟩
        ⟨elsewhere, received⟩ (.initial files) (.initial files) Eq (command.run urls)
        (command.offline.run urls) :=
      Command.agreeFrom_run_offline remote leads offline rfl alike fits
    exact Command.conduct_program_of_agree agree
  · intro now later
    have agree : Work.AgreeFrom ⟨elsewhere, now⟩ ⟨elsewhere, later⟩ (.initial files)
        (.initial files) Eq (command.offline.run urls) ((command.offline.named now).run urls) :=
      Command.agreeFrom_run_named (Command.backend?_offline remote) alike
    exact Command.conduct_program_of_agree agree

theorem runProgram_offline_service_document :
    let framework := Framework.standard fun _ _ => none
    let service : Service := ⟨⟨"127.0.0.1", 8000, []⟩, .offline⟩
    let files : FileSystem := ⟨[(["main.py"], .file "print(1)\n".toUTF8)], []⟩
    let remotely := Surroundings.conduct
      (service.asServer framework .standard (fun _ _ => .hangUp) .epoch) .epoch
      (runProgram .standard .empty ["docs", "--file", "main.py"]) (.initial files)
    let locally := Surroundings.conduct (fun _ _ => .hangUp) .epoch
      (runProgram .standard .empty ["docs", "--offline", "--file", "main.py"]) (.initial files)
    remotely.1 = locally.1 ∧ remotely.2.Alike locally.2 := by
  intro framework service files remotely locally
  have read : Command.ofArguments? .empty ["docs", "--file", "main.py"] =
      some (.docs ⟨"main.py"⟩ none none none (.server defaultServerUrl)) := by decide
  have posted :
      (Command.docs ⟨"main.py"⟩ none none none (.server defaultServerUrl)).request? files =
        some (DocumentRequest.mk "print(1)\n" (some "python") none).toJson := by rfl
  have offline : service.backend.provider = .offline := rfl
  refine (runProgram_offline_service read rfl leadsToService_default framework offline ?_
    _ _ _ _).1
  intro body same
  rw [posted] at same
  rw [← Option.some.inj same]
  decide

end CodeAssistant
