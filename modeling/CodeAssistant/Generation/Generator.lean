import CodeAssistant.Dialogue
import CodeAssistant.Generation.Reply

namespace CodeAssistant

/-!
# Text generators and sessions

A generator may be anything that replies to calls, and its reply may depend on all calls before.  A
consultation is an operation that calls a generator.  In a session several consultations share one
generator, each of them seeing the calls of the earlier ones only through the replies.
-/

/-- A computation that may call a text generator. -/
abbrev Consultation (α : Type) := Dialogue (fun _ : Call => Reply) α

/-- A generator: the reply to a call after the earlier calls, oldest first. -/
def Generator := List Call → Call → Reply

namespace Generator

/-- The generator that is never available. -/
def offline : Generator :=
  fun _ _ => .error .offline

/-- The generator that gives the replies one after the other and is unavailable afterwards. -/
def scripted (replies : List Reply) : Generator :=
  fun earlier _ => replies[earlier.length]?.getD (.error .offline)

/-- The reply to a call, and all calls so far. -/
def answer (generator : Generator) (earlier : List Call) (call : Call) : Reply × List Call :=
  (generator earlier call, earlier ++ [call])

/-- Conduct a consultation after the earlier calls; returns its result and all calls so far. -/
def consult (generator : Generator) (consultation : Consultation α) (earlier : List Call) :
    α × List Call :=
  consultation.run generator.answer earlier

/-- Conduct the consultations in order; returns the result of each and the calls it made. -/
def session (generator : Generator) (earlier : List Call) :
    List (Consultation α) → List (α × List Call)
  | [] => []
  | consultation :: rest =>
    let outcome := generator.consult consultation earlier
    (outcome.1, outcome.2.drop earlier.length) :: generator.session outcome.2 rest

end Generator

/-- Ask the generator for usable text. -/
def askUsable (call : Call) : Consultation Reply :=
  .ask call fun reply => .done reply.usable

/-- A text and the note that says where it comes from. -/
structure Draft where
  text : String
  note : String

/-- Ask the generator for a text and substitute the fallback when the reply is not usable. -/
def draft (call : Call) (successNote fallback : String) : Consultation Draft :=
  (askUsable call).bind fun
    | .ok text => .done ⟨text, successNote⟩
    | .error error => .done ⟨fallback, error.note⟩

end CodeAssistant
