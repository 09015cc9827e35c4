import CodeAssistant.Generation.Generator
import CodeAssistant.Http.Exchange

namespace CodeAssistant

/-!
# What partners are asked

A generator and a server are partners of the same kind: an answer may depend on all questions before
it, and every question is remembered.  A dialogue with such a partner has a *trace*, its result and
the questions that it asks itself.  The trace does not show the earlier questions except through the
answers, so a session is the sequence of the traces, each taken after the questions of those before
it (`getElem?_session`).

A dialogue that asks nothing leaves no mark on a session: it may be left out without any effect on
the other dialogues (`eraseIdx_session`), and a session of which some dialogues put a result into
another form and all others ask nothing has the same questions as the session of the former alone
(`session_accepted`).
-/

namespace Dialogue

variable {Q : Type} {A : Q → Type} {α β ι τ : Type}

/-- The partner who answers with regard to the questions before, and remembers them all. -/
def remembering (answer : List Q → (q : Q) → A q) (earlier : List Q) (q : Q) : A q × List Q :=
  (answer earlier q, earlier ++ [q])

/-- The result of a dialogue after the earlier questions, and the questions of the dialogue. -/
def trace (answer : List Q → (q : Q) → A q) (earlier : List Q) : Dialogue A α → α × List Q
  | .done result => (result, [])
  | .ask question next =>
    let rest := trace answer (earlier ++ [question]) (next (answer earlier question))
    (rest.1, question :: rest.2)

/-- The traces of dialogues in order, all with the same partner. -/
def session (answer : List Q → (q : Q) → A q) (earlier : List Q) :
    List (Dialogue A α) → List (α × List Q)
  | [] => []
  | dialogue :: rest =>
    let outcome := trace answer earlier dialogue
    outcome :: session answer (earlier ++ outcome.2) rest

variable (answer : List Q → (q : Q) → A q) (earlier : List Q)

/-! ## One dialogue -/

@[simp]
theorem trace_done (result : α) :
    trace answer earlier (.done result : Dialogue A α) = (result, []) := rfl

@[simp]
theorem trace_ask_done (question : Q) (next : A question → α) :
    trace answer earlier (.ask question fun reply => .done (next reply)) =
      (next (answer earlier question), [question]) := rfl

/-- Who conducts a dialogue learns its trace and nothing else. -/
theorem run_remembering (dialogue : Dialogue A α) :
    dialogue.run (remembering answer) earlier =
      ((trace answer earlier dialogue).1, earlier ++ (trace answer earlier dialogue).2) := by
  induction dialogue generalizing earlier with
  | done result => rw [run_done, trace_done, List.append_nil]
  | ask question next ih =>
    rw [run, remembering, ih, trace, List.append_assoc, List.singleton_append]

/-- To put a result into another form asks no question. -/
theorem trace_bind_done (dialogue : Dialogue A α) (form : α → β) :
    trace answer earlier (dialogue.bind fun result => .done (form result)) =
      (form (trace answer earlier dialogue).1, (trace answer earlier dialogue).2) := by
  induction dialogue generalizing earlier with
  | done result => rfl
  | ask question next ih => rw [bind, trace, ih, trace]

/-! ## Sessions -/

@[simp]
theorem length_session (dialogues : List (Dialogue A α)) :
    (session answer earlier dialogues).length = dialogues.length := by
  induction dialogues generalizing earlier with
  | nil => rfl
  | cons dialogue rest ih => rw [session, List.length_cons, ih, List.length_cons]

/-- Every dialogue of a session is conducted after the questions of those before it. -/
theorem getElem?_session (dialogues : List (Dialogue A α)) (i : Nat) :
    (session answer earlier dialogues)[i]? =
      dialogues[i]?.map (trace answer
        (earlier ++ ((session answer earlier dialogues).take i).flatMap Prod.snd)) := by
  induction dialogues generalizing earlier i with
  | nil => rfl
  | cons dialogue rest ih =>
    cases i with
    | zero =>
      rw [session, List.getElem?_cons_zero, List.getElem?_cons_zero, List.take_zero,
        List.flatMap_nil, List.append_nil, Option.map_some]
    | succ i =>
      rw [session, List.getElem?_cons_succ, List.getElem?_cons_succ, ih, List.take_succ_cons,
        List.flatMap_cons, List.append_assoc]

theorem getElem?_session_map (serve : ι → Dialogue A α) (requests : List ι)
    (i : Fin requests.length) :
    (session answer earlier (requests.map serve))[i]? =
      some (trace answer
        (earlier ++ ((session answer earlier (requests.map serve)).take i).flatMap Prod.snd)
        (serve requests[i])) := by
  have here : requests[(i : Nat)]? = some requests[i] := List.getElem?_eq_getElem i.isLt
  rw [Fin.getElem?_fin, getElem?_session, List.getElem?_map, here, Option.map_some,
    Option.map_some]

/-- A dialogue that asks nothing may be left out of a session. -/
theorem eraseIdx_session (dialogues : List (Dialogue A α)) (i : Nat) (result : α)
    (silent : dialogues[i]? = some (.done result)) :
    (session answer earlier dialogues).eraseIdx i =
      session answer earlier (dialogues.eraseIdx i) := by
  induction dialogues generalizing earlier i with
  | nil => cases silent
  | cons dialogue rest ih =>
    cases i with
    | zero =>
      rw [List.getElem?_cons_zero, Option.some.injEq] at silent
      rw [session, silent, trace_done, List.append_nil, List.eraseIdx_cons_zero,
        List.eraseIdx_cons_zero]
    | succ i =>
      rw [List.getElem?_cons_succ] at silent
      rw [session, List.eraseIdx_cons_succ, ih _ _ silent, List.eraseIdx_cons_succ, session]

/-- Results may be put into another form after the session as well as in the course of it. -/
theorem session_bind_done (serve : ι → Dialogue A α) (form : ι → α → β) (requests : List ι) :
    session answer earlier
        (requests.map fun request =>
          (serve request).bind fun result => .done (form request result)) =
      (requests.zip (session answer earlier (requests.map serve))).map fun (request, outcome) =>
        (form request outcome.1, outcome.2) := by
  induction requests generalizing earlier with
  | nil => rfl
  | cons request rest ih =>
    rw [List.map_cons, session, trace_bind_done, ih, List.map_cons, session, List.zip_cons_cons,
      List.map_cons]

/-- Some of a sequence of requests are accepted, and these are served by putting the result of a
dialogue into another form; the others are served without a question.  The questions are then those
of the accepted dialogues alone, and so are the results up to their form. -/
theorem session_accepted {serve : ι → Dialogue A β} {task? : ι → Option τ}
    {consult : τ → Dialogue A α} {form : α → β}
    (accepted : ∀ request task, task? request = some task →
      serve request = (consult task).bind fun result => .done (form result))
    (silent : ∀ request, task? request = none → ∃ result, serve request = .done result)
    (requests : List ι) :
    (session answer earlier (requests.map serve)).flatMap Prod.snd =
        (session answer earlier ((requests.filterMap task?).map consult)).flatMap Prod.snd ∧
      ∀ i task, requests[i]?.bind task? = some task →
        (session answer earlier (requests.map serve))[i]? =
          ((session answer earlier ((requests.filterMap task?).map consult))[
            ((requests.take i).filterMap task?).length]?).map
              fun outcome => (form outcome.1, outcome.2) := by
  -- A request that is not accepted adds no question, so both sessions always go on after the same
  -- earlier questions.
  induction requests generalizing earlier with
  | nil =>
    refine ⟨rfl, ?_⟩
    intro i task found
    cases found
  | cons request rest ih =>
    cases read : task? request with
    | none =>
      rcases silent request read with ⟨result, ending⟩
      rcases ih earlier with ⟨questions, results⟩
      have first : session answer earlier ((request :: rest).map serve) =
          (result, []) :: session answer earlier (rest.map serve) := by
        rw [List.map_cons, session, ending, trace_done, List.append_nil]
      rw [first, List.filterMap_cons_none read]
      refine ⟨by simpa using questions, ?_⟩
      intro i task found
      cases i with
      | zero =>
        rw [List.getElem?_cons_zero, Option.bind_some, read] at found
        cases found
      | succ i =>
        rw [List.getElem?_cons_succ, results i task found, List.take_succ_cons,
          List.filterMap_cons_none read]
    | some task =>
      have ending := accepted request task read
      rcases ih (earlier ++ (trace answer earlier (consult task)).2) with ⟨questions, results⟩
      have first : session answer earlier ((request :: rest).map serve) =
          (form (trace answer earlier (consult task)).1, (trace answer earlier (consult task)).2) ::
            session answer (earlier ++ (trace answer earlier (consult task)).2)
              (rest.map serve) := by
        rw [List.map_cons, session, ending, trace_bind_done]
      rw [first, List.filterMap_cons_some read, List.map_cons, session]
      refine ⟨by simpa using questions, ?_⟩
      intro i other found
      cases i with
      | zero => simp
      | succ i =>
        rw [List.getElem?_cons_succ, results i other found, List.take_succ_cons,
          List.filterMap_cons_some read, List.length_cons, List.getElem?_cons_succ]

end Dialogue

/-! ## Generators and servers -/

/-- The reply to a call after the earlier calls. -/
def Generator.reply (generator : Generator) : List Call → Call → Reply :=
  generator

theorem Generator.consult_eq (generator : Generator) (consultation : Consultation α)
    (earlier : List Call) :
    generator.consult consultation earlier =
      ((Dialogue.trace generator.reply earlier consultation).1,
        earlier ++ (Dialogue.trace generator.reply earlier consultation).2) :=
  Dialogue.run_remembering generator.reply earlier consultation

theorem Generator.session_eq (generator : Generator) (consultations : List (Consultation α))
    (earlier : List Call) :
    generator.session earlier consultations =
      Dialogue.session generator.reply earlier consultations := by
  induction consultations generalizing earlier with
  | nil => rfl
  | cons consultation rest ih =>
    rw [Generator.session, Generator.consult_eq, List.drop_left, ih]
    rfl

/-- The outcome of a request after the earlier requests. -/
def Http.Server.outcome (server : Http.Server) : List Http.Post → Http.Post → Http.Outcome :=
  server

theorem Http.Server.conduct_eq (server : Http.Server) (exchange : Http.Exchange α)
    (earlier : List Http.Post) :
    server.conduct exchange earlier =
      ((Dialogue.trace server.outcome earlier exchange).1,
        earlier ++ (Dialogue.trace server.outcome earlier exchange).2) :=
  Dialogue.run_remembering server.outcome earlier exchange

theorem Http.Server.session_eq (server : Http.Server) (exchanges : List (Http.Exchange α))
    (earlier : List Http.Post) :
    server.session earlier exchanges = Dialogue.session server.outcome earlier exchanges := by
  induction exchanges generalizing earlier with
  | nil => rfl
  | cons exchange rest ih =>
    rw [Http.Server.session, Http.Server.conduct_eq, List.drop_left, ih]
    rfl

end CodeAssistant
