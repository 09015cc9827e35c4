import CodeAssistant.Text.Blank

namespace CodeAssistant

/-!
# What a text generator is asked and replies

A call names a model and a prompt.  The reply is a text or the reason why there is none.  A reply is
usable when something is left of it after trimming; a blank reply is a failure of its own kind.
-/

/-- One request to a text generator. -/
structure Call where
  model : String
  prompt : String
  deriving DecidableEq, Repr

/-- Why a generator gave no usable text. -/
inductive GeneratorError where
  /-- The generator could not be reached or refused the request. -/
  | unavailable (message : String)
  /-- The generator answered with blanks. -/
  | emptyResponse
  /-- Any other reason, in words. -/
  | other (message : String)
  deriving DecidableEq, Repr

namespace GeneratorError

/-- The reason in words. -/
def message : GeneratorError → String
  | .unavailable message => "generator unavailable: " ++ message
  | .emptyResponse => "empty response"
  | .other message => message

/-- The note on a result that was made without the generator. -/
def note (error : GeneratorError) : String :=
  "Generated using fallback method (LLM error: " ++ error.message ++ ")"

/-- What every call is told when there is no generator. -/
def offline : GeneratorError :=
  .unavailable "offline mode"

end GeneratorError

/-- A text, or the reason why there is none. -/
abbrev Reply := Except GeneratorError String

namespace Reply

/-- The trimmed text of the reply, where a blank text counts as a failure. -/
def usable : Reply → Reply
  | .ok text =>
    match Text.nonBlank? text with
    | some trimmed => .ok trimmed
    | none => .error .emptyResponse
  | .error error => .error error

end Reply

end CodeAssistant
