import CodeAssistant.Command.Client

namespace CodeAssistant

/-!
# The surroundings of a command

What a command does is seen in the files it leaves, in what it has shown and printed, and in the
requests it has sent.  A server is any function from the earlier requests and the present one to an
outcome, and the clock stands still while a command is carried out.
-/

/-- What can be seen of a command so far. -/
structure Surroundings where
  files : FileSystem
  /-- The output. -/
  printed : String
  /-- The remarks beside the output. -/
  noted : String
  /-- The requests, oldest first. -/
  sent : List Http.Post

namespace Surroundings

/-- The surroundings before a command. -/
def initial (files : FileSystem) : Surroundings :=
  ⟨files, "", "", []⟩

/-- The effect of an action. -/
def react (server : Http.Server) (now : Instant) (state : Surroundings) :
    (action : Action) → action.Result × Surroundings
  | .readFile path => (state.files.read path, state)
  | .writeFile path contents =>
    let written := state.files.write path contents.toUTF8
    (written.2, { state with files := written.1 })
  | .lookAtClock => (now, state)
  | .send post => (server state.sent post, { state with sent := state.sent ++ [post] })
  | .note text => ((), { state with noted := state.noted ++ text })
  | .print text => ((), { state with printed := state.printed ++ text })

/-- Carry out what a command describes. -/
def conduct (server : Http.Server) (now : Instant) (work : Dialogue Action.Result α)
    (state : Surroundings) : α × Surroundings :=
  work.run (react server now) state

end Surroundings

end CodeAssistant
