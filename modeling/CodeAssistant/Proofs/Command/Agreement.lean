import CodeAssistant.Command.Surroundings
import CodeAssistant.Proofs.Dialogue

namespace CodeAssistant

/-!
# Commands that agree

What a command has to do with the world around it is the server that it reaches and the clock that
it looks at.  Two computations, each with a server and a clock of its own, *agree* when they fail
alike or come to related results, and leave the same files and have printed and noted the same.
What they have sent may differ.

The agreement of a whole command is put together from that of its actions: all actions but the
sending of a request and the look at the clock agree with themselves (`agree_act`), and computations
one after the other agree if each does (`Agree.bind`).
-/

/-- What is outside a command: the server that it reaches, and its clock. -/
structure Outside where
  server : Http.Server
  clock : Instant

/-- The files are the same, and the same was printed and noted. -/
structure Surroundings.Alike (state other : Surroundings) : Prop where
  files : state.files = other.files
  printed : state.printed = other.printed
  noted : state.noted = other.noted

/-- The same failure, or related results. -/
inductive Work.Corresponds (R : α → β → Prop) : Except Failure α → Except Failure β → Prop
  | ok {result : α} {other : β} (related : R result other) : Corresponds R (.ok result) (.ok other)
  | error (failure : Failure) : Corresponds R (.error failure) (.error failure)

/-- The action does not go beyond the files and what is shown. -/
def Action.IsInside : Action → Prop
  | .send _ | .lookAtClock => False
  | _ => True

/-- The text of a file, if it can be read and is one. -/
def FileSystem.text? (files : FileSystem) (path : Path) : Option String :=
  match files.read path with
  | .ok contents => String.fromUTF8? contents
  | .error _ => none

namespace Outside

/-- Do the work. -/
def perform (outside : Outside) (work : Work α) (state : Surroundings) :
    Except Failure α × Surroundings :=
  Surroundings.conduct outside.server outside.clock work.run state

variable (outside : Outside) (state : Surroundings)

theorem perform_ofExcept (result : Except ε α) (failure : ε → Failure) :
    outside.perform (Work.ofExcept result failure) state = (result.mapError failure, state) := rfl

theorem perform_act (action : Action) :
    outside.perform (Work.act action) state =
      (.ok (state.react outside.server outside.clock action).1,
        (state.react outside.server outside.clock action).2) := rfl

/-- Work that follows other work is done where that one has left off, unless it has failed. -/
theorem perform_bind (work : Work α) (next : α → Work β) :
    outside.perform (work >>= next) state =
      match outside.perform work state with
      | (.ok result, after) => outside.perform (next result) after
      | (.error failure, after) => (.error failure, after) := by
  rw [perform, ExceptT.run_bind, Dialogue.bind_eq, Surroundings.conduct, Dialogue.run_bind]
  rw [perform, Surroundings.conduct]
  cases Dialogue.run (Surroundings.react outside.server outside.clock) work.run state with
  | mk result after =>
    cases result with
    | ok result => rfl
    | error failure => rfl

theorem perform_readText (path : Path) :
    outside.perform (Work.readText path) state =
      (match state.files.read path with
        | .error fault => .error (.file fault)
        | .ok contents =>
          match String.fromUTF8? contents with
          | some text => .ok text
          | none => .error .notText,
        state) := by
  rw [Work.readText, perform_bind, perform_act]
  dsimp only [Surroundings.react]
  rw [perform_bind, perform_ofExcept]
  cases state.files.read path with
  | error fault => rfl
  | ok contents =>
    dsimp only [Except.mapError]
    cases String.fromUTF8? contents with
    | none => rfl
    | some text => rfl

end Outside

namespace Work

/-- The two computations, each begun in its own state, fail alike or come to related results, and
leave alike surroundings. -/
def AgreeFrom (here there : Outside) (state other : Surroundings) (R : α → β → Prop)
    (work : Work α) (work' : Work β) : Prop :=
  Corresponds R (here.perform work state).1 (there.perform work' other).1 ∧
    (here.perform work state).2.Alike (there.perform work' other).2

/-- The two computations agree wherever the surroundings are alike. -/
def Agree (here there : Outside) (R : α → β → Prop) (work : Work α) (work' : Work β) : Prop :=
  ∀ state other : Surroundings, state.Alike other → AgreeFrom here there state other R work work'

variable {here there : Outside} {state other : Surroundings}

theorem AgreeFrom.bind {R : α → β → Prop} {S : γ → δ → Prop} {work : Work α} {work' : Work β}
    {next : α → Work γ} {next' : β → Work δ} (first : AgreeFrom here there state other R work work')
    (rest : ∀ result result', R result result' →
      Agree here there S (next result) (next' result')) :
    AgreeFrom here there state other S (work >>= next) (work' >>= next') := by
  rw [AgreeFrom] at first
  rw [AgreeFrom, Outside.perform_bind, Outside.perform_bind]
  generalize here.perform work state = outcome at first ⊢
  generalize there.perform work' other = outcome' at first ⊢
  rcases outcome with ⟨result, after⟩
  rcases outcome' with ⟨result', after'⟩
  rcases first with ⟨results, alike⟩
  dsimp only at results
  cases results with
  | ok related => exact rest _ _ related _ _ alike
  | error failure => exact ⟨.error failure, alike⟩

theorem Agree.bind {R : α → β → Prop} {S : γ → δ → Prop} {work : Work α} {work' : Work β}
    {next : α → Work γ} {next' : β → Work δ} (first : Agree here there R work work')
    (rest : ∀ result result', R result result' →
      Agree here there S (next result) (next' result')) :
    Agree here there S (work >>= next) (work' >>= next') :=
  fun state other alike => (first state other alike).bind rest

theorem agree_pure {R : α → β → Prop} {result : α} {result' : β} (related : R result result') :
    Agree here there R (pure result) (pure result') :=
  fun _ _ alike => ⟨.ok related, alike⟩

theorem agree_throw (R : α → β → Prop) (failure : Failure) :
    Agree here there R (throw failure) (throw failure) :=
  fun _ _ alike => ⟨.error failure, alike⟩

theorem agree_ofExcept (result : Except ε α) (failure : ε → Failure) :
    Agree here there Eq (ofExcept result failure) (ofExcept result failure) := by
  intro state other alike
  rw [AgreeFrom, Outside.perform_ofExcept, Outside.perform_ofExcept]
  cases result with
  | ok result => exact ⟨.ok rfl, alike⟩
  | error fault => exact ⟨.error (failure fault), alike⟩

theorem ofExcept_ok_bind (result : α) (failure : ε → Failure) (next : α → Work β) :
    (ofExcept (.ok result) failure >>= next) = next result := rfl

/-! ## Actions -/

/-- An action that has to do with the files and with what is shown only. -/
theorem agree_act (action : Action) (inside : action.IsInside) :
    Agree here there Eq (act action) (act action) := by
  intro state other alike
  rw [AgreeFrom, Outside.perform_act, Outside.perform_act]
  cases action with
  | readFile path =>
    rw [Surroundings.react, Surroundings.react, alike.files]
    exact ⟨.ok rfl, alike⟩
  | writeFile path contents =>
    dsimp only [Surroundings.react]
    rw [alike.files]
    exact ⟨.ok rfl, ⟨rfl, alike.printed, alike.noted⟩⟩
  | lookAtClock => exact absurd inside not_false
  | send post => exact absurd inside not_false
  | note text => exact ⟨.ok rfl, ⟨alike.files, alike.printed, congrArg (· ++ text) alike.noted⟩⟩
  | print text => exact ⟨.ok rfl, ⟨alike.files, congrArg (· ++ text) alike.printed, alike.noted⟩⟩

theorem agree_writeText (path : Path) (contents : String) :
    Agree here there Eq (writeText path contents) (writeText path contents) := by
  apply (agree_act (.writeFile path contents) trivial).bind
  rintro result _ rfl
  exact agree_ofExcept result .file

/-- The text that is read is the text of the file. -/
theorem agreeFrom_readText (alike : state.Alike other) (path : Path) :
    AgreeFrom here there state other
      (fun text text' => text = text' ∧ state.files.text? path = some text)
      (readText path) (readText path) := by
  rw [AgreeFrom, Outside.perform_readText, Outside.perform_readText, ← alike.files]
  cases found : state.files.read path with
  | error fault => exact ⟨.error _, alike⟩
  | ok contents =>
    dsimp only
    cases decoded : String.fromUTF8? contents with
    | none => exact ⟨.error _, alike⟩
    | some text =>
      refine ⟨.ok ⟨rfl, ?_⟩, alike⟩
      rw [FileSystem.text?, found]
      exact decoded

end Work

end CodeAssistant
