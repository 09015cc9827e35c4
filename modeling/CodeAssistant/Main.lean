import CodeAssistant.Command.Run
import CodeAssistant.Http.Message
import Std.Async.DNS
import Std.Async.TCP
import Std.Time.DateTime.Timestamp

/-!
# The command line program

Every action of a command is carried out here, one after the other, on the files of the working
directory, on the clock and over the network.  What is done, and in which order, is decided by
`runProgram`.
-/

namespace CodeAssistant
namespace Program

open Std.Async

/-- The fault of a file that an error of the operating system stands for. -/
def fileErrorOf : IO.Error → IO FileError
  | .noFileOrDirectory _ _ _ => return .notFound
  | .alreadyExists _ _ _ => return .exists
  | .inappropriateType _ code _ => return if code = 20 then .notADirectory else .isADirectory
  | .invalidArgument _ _ _ => return .nameTooLong
  | error => throw error

/-- The result of an action on files, or the fault that stands in its place. -/
def attempt (action : IO α) : IO (Except FileError α) := do
  try return .ok (← action)
  catch error => return .error (← fileErrorOf error)

/-- Write a file, and make the directory for it if it is not there. -/
def writeFile (path : Path) (contents : String) : IO Unit := do
  let directory := path.directoryText
  if directory != "" then IO.FS.createDirAll directory
  IO.FS.writeFile path.text contents

/-- The present time. -/
def now : IO Instant := do
  let since := (← Std.Time.Timestamp.now).toNanosecondsSinceUnixEpoch.val
  return (Instant.ofParts? (since / 1000000000) (since % 1000000000).toNat).getD .epoch

/-- All that a server sends in answer to a message, until it closes the connection. -/
def receive (socket : TCP.Socket.Client) (message : String) : Async ByteArray := do
  socket.send message.toUTF8
  let mut received := ByteArray.empty
  repeat
    match ← socket.recv? 65536 with
    | some bytes => received := received ++ bytes
    | none => break
  return received

/-- Send a request over a connection of its own. -/
def exchange (post : Http.Post) : Async Http.Outcome := do
  let (host, number) := post.url.server
  for address in ← DNS.getAddrInfo host (decimal number) do
    let socket ← TCP.Socket.Client.mk
    match address with
    | .v4 address => socket.connect (.v4 ⟨address, number.toUInt16⟩)
    | .v6 address => socket.connect (.v6 ⟨address, number.toUInt16⟩)
    return .ofBytes (← receive socket post.message)
  return .hangUp

/-- Send a request.  Only unencrypted connections are made. -/
def send (post : Http.Post) : IO Http.Outcome := do
  if post.url.scheme != "http" then return .hangUp
  try (exchange post).block
  catch _ => return .hangUp

/-- Carry out one action. -/
def act : (action : Action) → IO action.Result
  | .readFile path => attempt (IO.FS.readBinFile path.text)
  | .writeFile path contents => attempt (writeFile path contents)
  | .lookAtClock => now
  | .send post => send post
  | .note text => IO.eprint text
  | .print text => IO.print text

/-- Carry out what a command describes. -/
def perform : Dialogue Action.Result α → IO α
  | .done result => return result
  | .ask action next => do perform (next (← act action))

/-- What is said about a command line that is a misuse. -/
def usage : String :=
  "Usage: atum quality --file <FILE> [--language <LANGUAGE>] [--format text|json|markdown]\n" ++
  "                    [--report-output <FILE>]\n" ++
  "       atum tests --file <FILE> --language <LANGUAGE> --framework <FRAMEWORK> [BACKEND]\n" ++
  "       atum docs --file <FILE> [--language <LANGUAGE>] [--project-name <NAME>]\n" ++
  "                 [--output <FILE>] [BACKEND]\n" ++
  "       atum generate --query <QUERY> --language <LANGUAGE> [BACKEND]\n" ++
  "BACKEND: --server-url <URL> or --offline\n"

/-- The variables that the program looks at. -/
def environment : IO Environment := do
  let url ← IO.getEnv "ATUM_API_URL"
  return ⟨url.toList.map fun url => ("ATUM_API_URL", url)⟩

end Program
end CodeAssistant

/-- Carry out the command line. -/
def main (arguments : List String) : IO UInt32 := do
  let environment ← CodeAssistant.Program.environment
  let ending ← CodeAssistant.Program.perform
    (CodeAssistant.runProgram .standard environment arguments)
  match ending with
  | .done => pure ()
  | .failed failure => IO.eprintln ("Error: " ++ failure.report)
  | .misused => IO.eprint CodeAssistant.Program.usage
  return ending.exitStatus
