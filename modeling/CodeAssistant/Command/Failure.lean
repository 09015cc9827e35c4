import CodeAssistant.Command.FileSystem
import CodeAssistant.Text.Quoted

namespace CodeAssistant

/-!
# Why a command fails

A failure is reported in one line.  Messages of this program are quoted; faults of files are shown
as the record of what the operating system said.
-/

/-- What goes wrong between the command and a server. -/
inductive ServerFault where
  /-- The address cannot be requested. -/
  | address
  /-- There was no answer. -/
  | transport
  /-- The answer reports a fault. -/
  | status (code : Nat)
  /-- The contents of the answer are not the response. -/
  | contents
  deriving DecidableEq, Repr

namespace ServerFault

/-- The fault in words. -/
def message : ServerFault → String
  | .address => "the server url cannot be requested"
  | .transport => "the server did not answer"
  | .status code => "the server answered with status " ++ decimal code
  | .contents => "the answer of the server could not be decoded"

end ServerFault

/-- Why a command fails. -/
inductive Failure where
  /-- The address of the server is blank. -/
  | serverUrlMissing
  /-- The source file is not UTF-8 text. -/
  | notText
  | file (fault : FileError)
  | server (fault : ServerFault)
  /-- The response carries no usable result. -/
  | refused (notes : List String)
  deriving DecidableEq, Repr

namespace Failure

/-- The failure as it is reported. -/
def report : Failure → String
  | .serverUrlMissing => Text.quote "server url is required"
  | .notText => FileError.inputReport "InvalidData" "stream did not contain valid UTF-8"
  | .file fault => fault.report
  | .server fault => fault.message
  | .refused notes => Text.quote (Text.join "; " notes)

end Failure

end CodeAssistant
