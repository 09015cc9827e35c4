import CodeAssistant.Proofs.Command.Files
import CodeAssistant.Proofs.Command.Offline

namespace CodeAssistant

/-!
# Receipts

All commands that generate something go the same way.  They have one errand done, and what comes
back, the *receipt* of the command, says whether it is usable, what is to be printed, and which
document is to be written.  Only then is it delivered.  So there are few ways for such a command to
end (`Command.concluded_run`): the receipt was delivered, its document could not be written, it was
refused, or there was none.  In the last two cases no trace is left.

What a command receives is described without the steps that it takes for it: by the text of the
source file, by the address, and by the answer of the server to the one request that is sent.
-/

variable {urls : Http.UrlReader} {outside : Outside} {files : FileSystem} {backend : Backend}
variable {client : Client} {errand : Errand ρ}

/-- No file was touched and nothing was printed on the way from one state to the other. -/
structure Surroundings.Unmarked (before after : Surroundings) : Prop where
  files : after.files = before.files
  printed : after.printed = before.printed

theorem Surroundings.Unmarked.trans {before between after : Surroundings}
    (first : before.Unmarked between) (rest : between.Unmarked after) : before.Unmarked after :=
  ⟨rest.files.trans first.files, rest.printed.trans first.printed⟩

/-! ## What is received -/

/-- The response that an errand gets: the one that is made on the spot, or the one that the server
gives to a request at its address, unless the answer reports a fault. -/
inductive Errand.Gets (urls : Http.UrlReader) (outside : Outside) (errand : Errand ρ) :
    Backend → ρ → Prop
  | onTheSpot : Gets urls outside errand .offline (errand.unaided outside.clock)
  | answered {url base : String} {address : Http.Url} {answer : Http.Answer} {response : ρ}
      (named : Client.baseUrl? url = some base)
      (parsed : urls.parse? (base ++ errand.kind.path) = some address)
      (answered : outside.server [] ⟨address, none, some "atum-cli", errand.body⟩ =
        .answered answer)
      (faultless : ¬(400 ≤ answer.status ∧ answer.status ≤ 599))
      (decoded : answer.decode? errand.decode? = some response) :
      Gets urls outside errand (.server url) response

theorem Errand.Gets.eq_unaided {response : ρ}
    (gets : errand.Gets urls outside .offline response) :
    response = errand.unaided outside.clock := by
  cases gets
  rfl

theorem Errand.Gets.unique {response response' : ρ}
    (first : errand.Gets urls outside backend response)
    (second : errand.Gets urls outside backend response') : response = response' := by
  cases first with
  | onTheSpot => exact second.eq_unaided.symm
  | answered named parsed answered faultless decoded =>
    cases second with
    | answered named' parsed' answered' faultless' decoded' =>
      rcases Option.some.inj (named.symm.trans named') with rfl
      rcases Option.some.inj (parsed.symm.trans parsed') with rfl
      rcases Http.Outcome.answered.inj (answered.symm.trans answered') with rfl
      exact Option.some.inj (decoded.symm.trans decoded')

/-- What a command makes of the response to its errand. -/
structure Receipt where
  /-- Whether the response carries a usable result. -/
  ok : Bool
  notes : List String
  /-- What is printed. -/
  output : String
  /-- What is written, and under which path. -/
  document : Option (Path × String)

def TestsResponse.receipt (response : TestsResponse) : Receipt :=
  ⟨response.ok, response.notes, response.tests ++ "\n", none⟩

def CodeResponse.receipt (response : CodeResponse) : Receipt :=
  ⟨response.ok, response.notes, response.generatedCode ++ "\n", none⟩

/-- The document is written under the given path, or else under the name that is suggested. -/
def DocumentResponse.receipt (output : Option Path) (response : DocumentResponse) : Receipt :=
  let path := output.getD ⟨response.filename⟩
  ⟨response.ok, response.notes, "Documentation written to " ++ path.text ++ "\n",
    some (path, response.content)⟩

/-- The receipt that a command comes to. -/
inductive Command.Receives (urls : Http.UrlReader) (outside : Outside) (files : FileSystem) :
    Command → Receipt → Prop
  | tests {file : Path} {language framework code : String} {backend : Backend}
      {response : TestsResponse} (readable : files.text? file = some code)
      (gets : (TestsRequest.errand ⟨code, language, framework⟩).Gets
        urls outside backend response) :
      Receives urls outside files (.tests file language framework backend) response.receipt
  | docs {file : Path} {language projectName : Option String} {output : Option Path}
      {code : String} {backend : Backend} {response : DocumentResponse}
      (readable : files.text? file = some code)
      (gets : (DocumentRequest.errand ⟨code, language.or file.language?, projectName⟩).Gets
        urls outside backend response) :
      Receives urls outside files (.docs file language projectName output backend)
        (response.receipt output)
  | generate {query language : String} {backend : Backend} {response : CodeResponse}
      (gets : (CodeRequest.errand ⟨query, language⟩).Gets urls outside backend response) :
      Receives urls outside files (.generate query language backend) response.receipt

/-- A command comes to one receipt at most. -/
theorem Command.Receives.unique {command : Command} {receipt receipt' : Receipt}
    (first : command.Receives urls outside files receipt)
    (second : command.Receives urls outside files receipt') : receipt = receipt' := by
  cases first with
  | tests readable gets =>
    cases second with
    | tests readable' gets' =>
      rcases Option.some.inj (readable.symm.trans readable') with rfl
      rw [gets.unique gets']
  | docs readable gets =>
    cases second with
    | docs readable' gets' =>
      rcases Option.some.inj (readable.symm.trans readable') with rfl
      rw [gets.unique gets']
  | generate gets =>
    cases second with
    | generate gets' => rw [gets.unique gets']

/-! ## How it is delivered -/

namespace Receipt

/-- The document can be written, if there is one. -/
def IsWritable (receipt : Receipt) (files : FileSystem) : Prop :=
  ∀ path contents, receipt.document = some (path, contents) → files.IsWritable path

/-- The files after the delivery: the document has been written, and without one nothing has. -/
def Leaves (receipt : Receipt) (files after : FileSystem) : Prop :=
  match receipt.document with
  | none => after = files
  | some (path, contents) => files.write path contents.toUTF8 = (after, .ok ())

/-- Write the document and print the output. -/
def deliver (receipt : Receipt) : Work Unit := do
  match receipt.document with
  | none => pure ()
  | some (path, contents) => Work.writeText path contents
  Work.act (.print receipt.output)

/-- What is left can be read again. -/
theorem Leaves.read {receipt : Receipt} {after : FileSystem} (leaves : receipt.Leaves files after)
    {path : Path} {contents : String} (document : receipt.document = some (path, contents)) :
    after.read path = .ok contents.toUTF8 := by
  rw [Leaves, document] at leaves
  exact FileSystem.read_of_written leaves

end Receipt

/-- How a command ends that has nothing to do but to deliver a receipt: with the result of its work,
and in which state. -/
inductive Concluded (files : FileSystem) (received : Receipt → Prop) :
    Except Failure Unit × Surroundings → Prop
  | delivered {receipt : Receipt} {after : Surroundings} (got : received receipt)
      (usable : receipt.ok = true) (left : receipt.Leaves files after.files)
      (printed : after.printed = receipt.output) : Concluded files received (.ok (), after)
  | unwritten {receipt : Receipt} {failure : Failure} {after : Surroundings}
      (got : received receipt) (usable : receipt.ok = true)
      (unwritable : ¬receipt.IsWritable files) : Concluded files received (.error failure, after)
  | refused {receipt : Receipt} {after : Surroundings} (got : received receipt)
      (unusable : receipt.ok = false) (unmarked : (Surroundings.initial files).Unmarked after) :
      Concluded files received (.error (.refused receipt.notes), after)
  | failed {failure : Failure} {after : Surroundings} (nothing : ∀ receipt, ¬received receipt)
      (unmarked : (Surroundings.initial files).Unmarked after) :
      Concluded files received (.error failure, after)

namespace Concluded

variable {received received' : Receipt → Prop} {outcome : Except Failure Unit × Surroundings}

theorem of_iff (same : ∀ receipt, received receipt ↔ received' receipt)
    (concluded : Concluded files received outcome) : Concluded files received' outcome := by
  have equal : received = received' := funext fun receipt => propext (same receipt)
  exact equal ▸ concluded

/-- Work that succeeds has delivered a usable receipt. -/
theorem exists_usable (concluded : Concluded files received outcome) (done : outcome.1 = .ok ()) :
    ∃ receipt, received receipt ∧ receipt.ok = true := by
  cases concluded with
  | delivered got usable left printed => exact ⟨_, got, usable⟩
  | unwritten got usable unwritable => cases done
  | refused got unusable unmarked => cases done
  | failed nothing unmarked => cases done

/-- Work that fails has left no trace, unless it could not write a document. -/
theorem unmarked_of_error (concluded : Concluded files received outcome)
    (writable : ∀ receipt, received receipt → receipt.ok = true → receipt.IsWritable files)
    {failure : Failure} (failed : outcome.1 = .error failure) :
    (Surroundings.initial files).Unmarked outcome.2 := by
  cases concluded with
  | delivered got usable left printed => cases failed
  | unwritten got usable unwritable => exact absurd (writable _ got usable) unwritable
  | refused got unusable unmarked => exact unmarked
  | failed nothing unmarked => exact unmarked

variable (unique : ∀ receipt receipt', received receipt → received receipt' → receipt = receipt')
include unique

/-- A usable receipt is delivered if its document can be written. -/
theorem delivered_of_usable (concluded : Concluded files received outcome) {receipt : Receipt}
    (got : received receipt) (usable : receipt.ok = true) (writable : receipt.IsWritable files) :
    outcome.1 = .ok () ∧ outcome.2.printed = receipt.output ∧
      receipt.Leaves files outcome.2.files := by
  cases concluded with
  | delivered got' usable' left printed =>
    rcases unique _ _ got got' with rfl
    exact ⟨rfl, printed, left⟩
  | unwritten got' usable' unwritable =>
    rcases unique _ _ got got' with rfl
    exact absurd writable unwritable
  | refused got' unusable unmarked =>
    rcases unique _ _ got got' with rfl
    cases usable.symm.trans unusable
  | failed nothing unmarked => exact absurd got (nothing receipt)

/-- A receipt that is not usable is refused with the remarks on it. -/
theorem refused_of_unusable (concluded : Concluded files received outcome) {receipt : Receipt}
    (got : received receipt) (unusable : receipt.ok = false) :
    outcome.1 = .error (.refused receipt.notes) := by
  cases concluded with
  | delivered got' usable left printed =>
    rcases unique _ _ got got' with rfl
    cases unusable.symm.trans usable
  | unwritten got' usable unwritable =>
    rcases unique _ _ got got' with rfl
    cases unusable.symm.trans usable
  | refused got' unusable' unmarked =>
    rcases unique _ _ got got' with rfl
    rfl
  | failed nothing unmarked => exact absurd got (nothing receipt)

end Concluded

theorem Outside.perform_print (outside : Outside) (text : String) (state : Surroundings) :
    outside.perform (Work.act (.print text)) state =
      (.ok (), { state with printed := state.printed ++ text }) := rfl

theorem Outside.perform_writeText (outside : Outside) (path : Path) (contents : String)
    (state : Surroundings) :
    outside.perform (Work.writeText path contents) state =
      ((state.files.write path contents.toUTF8).2.mapError .file,
        { state with files := (state.files.write path contents.toUTF8).1 }) := by
  rw [Work.writeText, perform_bind, perform_act]
  dsimp only [Surroundings.react]
  rw [perform_ofExcept]

/-- A usable receipt is delivered in a state without marks. -/
theorem concluded_deliver {received : Receipt → Prop} {receipt : Receipt} (got : received receipt)
    (usable : receipt.ok = true) {state : Surroundings}
    (unmarked : (Surroundings.initial files).Unmarked state) :
    Concluded files received (outside.perform receipt.deliver state) := by
  have untouched : state.files = files := unmarked.files
  have printed : state.printed ++ receipt.output = receipt.output := by
    rw [unmarked.printed]
    exact String.empty_append
  cases document : receipt.document with
  | none =>
    have delivery : receipt.deliver = Work.act (.print receipt.output) := by
      rw [Receipt.deliver, document]
    rw [delivery, Outside.perform_print]
    refine .delivered got usable ?_ printed
    rw [Receipt.Leaves, document]
    exact untouched
  | some written =>
    rcases written with ⟨path, contents⟩
    have delivery : receipt.deliver =
        Work.writeText path contents >>= fun _ => Work.act (.print receipt.output) := by
      rw [Receipt.deliver, document]
    rw [delivery, Outside.perform_bind, Outside.perform_writeText, untouched]
    cases result : files.write path contents.toUTF8 with
    | mk after done =>
      cases done with
      | error fault =>
        refine .unwritten got usable ?_
        intro writable
        have done := writable path contents document contents.toUTF8
        rw [result] at done
        cases done
      | ok done =>
        dsimp only [Except.mapError]
        rw [Outside.perform_print]
        refine .delivered got usable ?_ printed
        rw [Receipt.Leaves, document]
        exact result

/-! ## Up to the delivery -/

theorem Outside.perform_readText_cases (outside : Outside) (state : Surroundings) (path : Path) :
    (∃ text, state.files.text? path = some text ∧
        outside.perform (Work.readText path) state = (.ok text, state)) ∨
      state.files.text? path = none ∧
        ∃ failure, outside.perform (Work.readText path) state = (.error failure, state) := by
  rw [perform_readText, FileSystem.text?]
  cases state.files.read path with
  | error fault => exact Or.inr ⟨rfl, _, rfl⟩
  | ok contents =>
    dsimp only
    cases String.fromUTF8? contents with
    | none => exact Or.inr ⟨rfl, _, rfl⟩
    | some text => exact Or.inl ⟨text, rfl, rfl⟩

/-- A client that cannot be had gets nothing. -/
theorem Errand.not_gets_of_error {failure : Failure}
    (unnamed : Client.ofBackend backend = .error failure) (response : ρ) :
    ¬errand.Gets urls outside backend response := by
  intro gets
  cases gets with
  | onTheSpot => cases unnamed
  | answered named parsed answered faultless decoded =>
    rw [Client.ofBackend, named] at unnamed
    cases unnamed

theorem Client.responseOf_eq_ok_iff {decode : Json → Option ρ} {outcome : Http.Outcome}
    {response : ρ} :
    responseOf decode outcome = .ok response ↔
      ∃ answer, outcome = .answered answer ∧ ¬(400 ≤ answer.status ∧ answer.status ≤ 599) ∧
        answer.decode? decode = some response := by
  cases outcome with
  | hangUp =>
    constructor
    · intro same
      cases same
    · rintro ⟨answer, same, -⟩
      cases same
  | answered answer =>
    have fault : Http.isFault answer.status = true ↔ 400 ≤ answer.status ∧ answer.status ≤ 599 := by
      rw [Http.isFault, Bool.and_eq_true, decide_eq_true_eq, decide_eq_true_eq]
    rw [responseOf]
    by_cases faulty : Http.isFault answer.status = true
    · rw [if_pos faulty]
      constructor
      · intro same
        cases same
      · rintro ⟨_, ⟨⟩, faultless, -⟩
        exact absurd (fault.mp faulty) faultless
    · rw [if_neg faulty]
      cases decoded : answer.decode? decode with
      | none =>
        constructor
        · intro same
          cases same
        · rintro ⟨_, ⟨⟩, -, read⟩
          cases decoded.symm.trans read
      | some result =>
        constructor
        · intro same
          exact ⟨answer, rfl, faulty ∘ fault.mpr,
            decoded.trans (congrArg some (Except.ok.inj same))⟩
        · rintro ⟨_, ⟨⟩, -, read⟩
          exact congrArg Except.ok (Option.some.inj (decoded.symm.trans read))

namespace Client

/-- The errand comes to the response that it gets, or fails because it gets none.  All that is seen
of it is the request. -/
inductive Fulfilled (urls : Http.UrlReader) (outside : Outside) (backend : Backend)
    (errand : Errand ρ) (before : Surroundings) : Except Failure ρ × Surroundings → Prop
  | response {response : ρ} {after : Surroundings}
      (gets : errand.Gets urls outside backend response) (unmarked : before.Unmarked after) :
      Fulfilled urls outside backend errand before (.ok response, after)
  | nothing {failure : Failure} {after : Surroundings}
      (nothing : ∀ response, ¬errand.Gets urls outside backend response)
      (unmarked : before.Unmarked after) :
      Fulfilled urls outside backend errand before (.error failure, after)

theorem fulfilled (outside : Outside) (had : ofBackend backend = .ok client) (errand : Errand ρ)
    {state : Surroundings} (first : state.sent = []) :
    Fulfilled urls outside backend errand state
      (outside.perform (client.fulfil urls errand) state) := by
  cases backend with
  | offline =>
    rcases Except.ok.inj had with rfl
    rw [perform_fulfil_offline]
    exact .response .onTheSpot ⟨rfl, rfl⟩
  | server url =>
    rw [ofBackend] at had
    cases named : baseUrl? url with
    | none =>
      rw [named] at had
      cases had
    | some base =>
      rw [named] at had
      rcases Except.ok.inj had with rfl
      rw [fulfil]
      cases parsed : urls.parse? (base ++ errand.kind.path) with
      | none =>
        refine .nothing ?_ ⟨rfl, rfl⟩
        rintro response (_ | ⟨named', parsed', answered, faultless, decoded⟩)
        rcases Option.some.inj (named.symm.trans named') with rfl
        cases parsed.symm.trans parsed'
      | some address =>
        dsimp only
        rw [Outside.perform_bind, Outside.perform_act]
        dsimp only [Surroundings.react]
        rw [Outside.perform_ofExcept, first]
        cases brought : responseOf errand.decode?
            (outside.server [] ⟨address, none, some userAgent, errand.body⟩) with
        | ok response =>
          rcases responseOf_eq_ok_iff.mp brought with ⟨answer, answered, faultless, decoded⟩
          exact .response (.answered named parsed answered faultless decoded) ⟨rfl, rfl⟩
        | error fault =>
          refine .nothing ?_ ⟨rfl, rfl⟩
          rintro response (_ | ⟨named', parsed', answered, faultless, decoded⟩)
          rcases Option.some.inj (named.symm.trans named') with rfl
          rcases Option.some.inj (parsed.symm.trans parsed') with rfl
          cases brought.symm.trans (responseOf_eq_ok_iff.mpr ⟨_, answered, faultless, decoded⟩)

theorem perform_showNotes (outside : Outside) (notes : List String) (state : Surroundings) :
    ∃ after, outside.perform (showNotes notes) state = (.ok (), after) ∧ state.Unmarked after := by
  induction notes generalizing state with
  | nil => exact ⟨state, rfl, ⟨rfl, rfl⟩⟩
  | cons note rest ih =>
    rw [showNotes, Outside.perform_bind, Outside.perform_act]
    dsimp only [Surroundings.react]
    rcases ih { state with noted := state.noted ++ ("note: " ++ note ++ "\n") } with
      ⟨after, shown, unmarked⟩
    exact ⟨after, shown, ⟨unmarked.files, unmarked.printed⟩⟩

/-- Once its client is had, a command is concluded by its errand. -/
theorem concluded_obtain (had : ofBackend backend = .ok client) (errand : Errand ρ)
    (receipt : ρ → Receipt) (flag : ∀ response, (receipt response).ok = errand.ok response)
    (notes : ∀ response, (receipt response).notes = errand.notes response) :
    Concluded files (fun got => ∃ response, errand.Gets urls outside backend response ∧
        got = receipt response)
      (outside.perform (client.obtain urls errand >>= fun response => (receipt response).deliver)
        (.initial files)) := by
  rw [Outside.perform_bind, obtain, Outside.perform_bind]
  have fulfilled : Fulfilled urls outside backend errand (.initial files) _ :=
    fulfilled outside had errand rfl
  generalize outside.perform (client.fulfil urls errand) (.initial files) = outcome at fulfilled ⊢
  cases fulfilled with
  | nothing nothing unmarked =>
    refine .failed ?_ unmarked
    rintro _ ⟨response, gets, rfl⟩
    exact nothing response gets
  | @response response between gets unmarked =>
    dsimp only
    by_cases usable : errand.ok response = true
    · rw [if_pos usable, Outside.perform_bind]
      rcases perform_showNotes outside (errand.notes response) between with
        ⟨after, shown, silent⟩
      rw [shown]
      exact concluded_deliver ⟨response, gets, rfl⟩ ((flag response).trans usable)
        (unmarked.trans silent)
    · rw [if_neg usable, ← notes]
      refine .refused ⟨response, gets, rfl⟩ ?_ unmarked
      rw [flag]
      exact Bool.eq_false_iff.mpr usable

end Client

/-! ## Commands -/

namespace Command

/-- A command whose client cannot be had receives nothing. -/
theorem concluded_ofBackend {received : Receipt → Prop} {next : Client → Work Unit}
    (needed : ∀ failure, Client.ofBackend backend = .error failure → ∀ receipt, ¬received receipt)
    (concludes : ∀ client, Client.ofBackend backend = .ok client →
      Concluded files received (outside.perform (next client) (.initial files))) :
    Concluded files received (outside.perform
      (Work.ofExcept (Client.ofBackend backend) id >>= next) (.initial files)) := by
  rw [Outside.perform_bind, Outside.perform_ofExcept]
  cases had : Client.ofBackend backend with
  | error failure => exact .failed (needed failure had) ⟨rfl, rfl⟩
  | ok client => exact concludes client had

/-- A command whose source file is no text receives nothing. -/
theorem concluded_readText {file : Path} {received : String → Receipt → Prop}
    {next : String → Work Unit}
    (concludes : ∀ code,
      Concluded files (received code) (outside.perform (next code) (.initial files))) :
    Concluded files (fun receipt => ∃ code, files.text? file = some code ∧ received code receipt)
      (outside.perform (Work.readText file >>= next) (.initial files)) := by
  rw [Outside.perform_bind]
  rcases outside.perform_readText_cases (.initial files) file with
    ⟨code, readable, read⟩ | ⟨unreadable, failure, read⟩
  · rw [read]
    refine (concludes code).of_iff fun receipt => ?_
    constructor
    · intro got
      exact ⟨code, readable, got⟩
    · rintro ⟨_, readable', got⟩
      rcases Option.some.inj (readable.symm.trans readable') with rfl
      exact got
  · rw [read]
    refine .failed ?_ ⟨rfl, rfl⟩
    rintro receipt ⟨code, readable, -⟩
    cases unreadable.symm.trans readable

/-- How a command ends that generates something. -/
theorem concluded_run {command : Command} (generates : command.backend? = some backend) :
    Concluded files (command.Receives urls outside files)
      (outside.perform (command.run urls) (.initial files)) := by
  have needed {failure : Failure} (unnamed : Client.ofBackend backend = .error failure)
      (receipt : Receipt) : ¬command.Receives urls outside files receipt := by
    rintro (⟨-, gets⟩ | ⟨-, gets⟩ | gets) <;> rcases Option.some.inj generates with rfl <;>
      exact Errand.not_gets_of_error unnamed _ gets
  cases command with
  | version => cases generates
  | quality file language format output => cases generates
  | tests file language framework backend =>
    rcases Option.some.inj generates with rfl
    refine concluded_ofBackend (fun _ => needed) fun client had => ?_
    refine Concluded.of_iff ?_ (concluded_readText fun code =>
      Client.concluded_obtain had (TestsRequest.errand ⟨code, language, framework⟩)
        TestsResponse.receipt (fun _ => rfl) fun _ => rfl)
    intro receipt
    constructor
    · rintro ⟨code, readable, response, gets, rfl⟩
      exact .tests readable gets
    · rintro ⟨readable, gets⟩
      exact ⟨_, readable, _, gets, rfl⟩
  | docs file language projectName output backend =>
    rcases Option.some.inj generates with rfl
    refine concluded_ofBackend (fun _ => needed) fun client had => ?_
    refine Concluded.of_iff ?_ (concluded_readText fun code =>
      Client.concluded_obtain had
        (DocumentRequest.errand ⟨code, language.or file.language?, projectName⟩)
        (DocumentResponse.receipt output) (fun _ => rfl) fun _ => rfl)
    intro receipt
    constructor
    · rintro ⟨code, readable, response, gets, rfl⟩
      exact .docs readable gets
    · rintro (_ | ⟨readable, gets⟩)
      exact ⟨_, readable, _, gets, rfl⟩
  | generate query language backend =>
    rcases Option.some.inj generates with rfl
    refine concluded_ofBackend (fun _ => needed) fun client had => ?_
    refine Concluded.of_iff ?_ (Client.concluded_obtain had (CodeRequest.errand ⟨query, language⟩)
      CodeResponse.receipt (fun _ => rfl) fun _ => rfl)
    intro receipt
    constructor
    · rintro ⟨response, gets, rfl⟩
      exact .generate gets
    · rintro (_ | _ | gets)
      exact ⟨_, gets, rfl⟩

end Command

/-! ## The program -/

theorem Ending.exitStatus_ofResult_eq_zero_iff {result : Except Failure Unit} :
    (ofResult result).exitStatus = 0 ↔ result = .ok () := by
  cases result with
  | ok done => exact ⟨fun _ => rfl, fun _ => rfl⟩
  | error failure =>
    constructor
    · intro same
      cases same
    · intro same
      cases same

/-- The program does what the command line asks for. -/
theorem conduct_runProgram (urls : Http.UrlReader) {environment : Environment}
    {arguments : List String} {command : Command}
    (read : Command.ofArguments? environment arguments = some command)
    (outside : Outside) (state : Surroundings) :
    Surroundings.conduct outside.server outside.clock
        (runProgram urls environment arguments) state =
      (.ofResult (outside.perform (command.run urls) state).1,
        (outside.perform (command.run urls) state).2) := by
  have asked : runProgram urls environment arguments = command.program urls := by
    rw [runProgram, read]
    rfl
  rw [asked, Command.conduct_program]

/-- A command that generates something exits successfully if and only if it comes to a usable
receipt, provided that the document of that receipt can be written.  Then it has printed the output
of the receipt and written the document, if there is one, and nothing else.  Otherwise it has
printed nothing, and all files and directories are as they were; if the receipt was not usable, the
remarks on it are reported. -/
theorem runProgram_delivers_or_leaves_no_trace (urls : Http.UrlReader)
    {environment : Environment} {arguments : List String} {command : Command}
    (read : Command.ofArguments? environment arguments = some command)
    (generates : command.backend? = some backend) (outside : Outside) (files : FileSystem)
    (writable : ∀ receipt, command.Receives urls outside files receipt → receipt.ok = true →
      receipt.IsWritable files) :
    let outcome := Surroundings.conduct outside.server outside.clock
      (runProgram urls environment arguments) (.initial files)
    (outcome.1.exitStatus = 0 ↔
        ∃ receipt, command.Receives urls outside files receipt ∧ receipt.ok = true) ∧
      (∀ receipt, command.Receives urls outside files receipt → receipt.ok = true →
        outcome.2.printed = receipt.output ∧ receipt.Leaves files outcome.2.files ∧
          ∀ path contents, receipt.document = some (path, contents) →
            outcome.2.files.read path = .ok contents.toUTF8) ∧
      (outcome.1.exitStatus ≠ 0 → outcome.2.printed = "" ∧ outcome.2.files = files) ∧
      ∀ receipt, command.Receives urls outside files receipt → receipt.ok = false →
        ∃ failure, outcome.1 = .failed failure ∧
          failure.report = Text.quote (Text.join "; " receipt.notes) := by
  intro outcome
  have same : outcome = (.ofResult (outside.perform (command.run urls) (.initial files)).1,
      (outside.perform (command.run urls) (.initial files)).2) :=
    conduct_runProgram urls read outside _
  have concluded : Concluded files (command.Receives urls outside files)
      (outside.perform (command.run urls) (.initial files)) := Command.concluded_run generates
  have unique (receipt receipt' : Receipt) (got : command.Receives urls outside files receipt)
      (got' : command.Receives urls outside files receipt') : receipt = receipt' := got.unique got'
  generalize outside.perform (command.run urls) (.initial files) = ending at same concluded
  rw [same, Ending.exitStatus_ofResult_eq_zero_iff]
  refine ⟨⟨concluded.exists_usable, ?_⟩, ?_, ?_, ?_⟩
  · rintro ⟨receipt, got, usable⟩
    exact (concluded.delivered_of_usable unique got usable (writable receipt got usable)).1
  · intro receipt got usable
    rcases concluded.delivered_of_usable unique got usable (writable receipt got usable) with
      ⟨-, printed, left⟩
    exact ⟨printed, left, fun path contents => left.read⟩
  · rw [ne_eq, Ending.exitStatus_ofResult_eq_zero_iff]
    intro unsuccessful
    cases result : ending.1 with
    | ok done => exact absurd result unsuccessful
    | error failure =>
      have unmarked := concluded.unmarked_of_error writable result
      exact ⟨unmarked.printed, unmarked.files⟩
  · intro receipt got unusable
    rw [concluded.refused_of_unusable unique got unusable]
    exact ⟨_, rfl, rfl⟩

theorem runProgram_delivers_document :
    let files : FileSystem := ⟨[(["main.py"], .file "print(1)\n".toUTF8)], []⟩
    let answer : Http.Answer :=
      ⟨200, "\x7b\"ok\":true,\"filename\":\"a.md\",\"content\":\"# A\",\"notes\":[]\x7d"⟩
    let outcome := Surroundings.conduct (fun _ _ => .answered answer) .epoch
      (runProgram .standard .empty ["docs", "--file", "main.py", "--output", "out/doc.md"])
      (.initial files)
    outcome.1.exitStatus = 0 ∧ outcome.2.printed = "Documentation written to out/doc.md\n" ∧
      outcome.2.files.read ⟨"out/doc.md"⟩ = .ok "# A".toUTF8 := by
  intro files answer outcome
  have read : Command.ofArguments? .empty ["docs", "--file", "main.py", "--output", "out/doc.md"] =
      some (.docs ⟨"main.py"⟩ none none (some ⟨"out/doc.md"⟩) (.server defaultServerUrl)) := by
    decide
  let outside : Outside := ⟨fun _ _ => .answered answer, .epoch⟩
  let response : DocumentResponse := ⟨true, "a.md", "# A", []⟩
  rcases leadsToService_default with ⟨base, named, reaches⟩
  rcases reaches .document with ⟨address, parsed, -⟩
  have received : Command.Receives .standard outside files
      (.docs ⟨"main.py"⟩ none none (some ⟨"out/doc.md"⟩) (.server defaultServerUrl))
      (response.receipt (some ⟨"out/doc.md"⟩)) := by
    have readable : files.text? ⟨"main.py"⟩ = some "print(1)\n" := by rfl
    have decoded : answer.decode? DocumentResponse.ofJson? = some response := by decide +kernel
    exact .docs readable (.answered named parsed rfl (by decide) decoded)
  have writable : files.IsWritable ⟨"out/doc.md"⟩ := fun _ => rfl
  have outcomes := runProgram_delivers_or_leaves_no_trace .standard read rfl outside files ?_
  · rcases outcomes.2.1 _ received rfl with ⟨printed, -, written⟩
    exact ⟨outcomes.1.mpr ⟨_, received, rfl⟩, printed, written _ _ rfl⟩
  · rintro _ (_ | _) - path contents document
    cases document
    exact writable

end CodeAssistant
