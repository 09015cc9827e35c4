import CodeAssistant.Command.Arguments
import CodeAssistant.Command.Client
import CodeAssistant.Json.Printing
import CodeAssistant.Quality.Rendering
import CodeAssistant.Wire.Quality

namespace CodeAssistant

/-!
# Carrying out commands

Source code is scored here; everything else is an errand for a client.  The address of a server is
looked at before any file is read.  Output is printed only after all else has succeeded, so a
command that fails prints none.
-/

namespace QualityReport

/-- The report in one of its forms. -/
def render (report : QualityReport) : ReportFormat → String
  | .text => report.toText
  | .json => report.toJson.pretty
  | .markdown => report.toMarkdown

end QualityReport

namespace Command

/-- The version of the program. -/
def versionText : String := "atum 0.0.1\n"

/-- Score a source file, whose language is inferred from its name where it is not given. -/
def runQuality (file : Path) (language : Option String) (format : ReportFormat)
    (output : Option Path) : Work Unit := do
  let code ← Work.readText file
  let report := QualityReport.ofRequest ⟨code, language.or file.language?⟩
  match output with
  | some path => Work.writeText path (report.render format)
  | none => Work.act (.print (report.render format))

/-- Print tests for a source file. -/
def runTests (urls : Http.UrlReader) (client : Client) (file : Path)
    (language framework : String) : Work Unit := do
  let code ← Work.readText file
  let response ← client.obtain urls (TestsRequest.errand ⟨code, language, framework⟩)
  Work.act (.print (response.tests ++ "\n"))

/-- Write a document on a source file, under the name that the response suggests where none is
given. -/
def runDocs (urls : Http.UrlReader) (client : Client) (file : Path)
    (language projectName : Option String) (output : Option Path) : Work Unit := do
  let code ← Work.readText file
  let response ← client.obtain urls
    (DocumentRequest.errand ⟨code, language.or file.language?, projectName⟩)
  let path := output.getD ⟨response.filename⟩
  Work.writeText path response.content
  Work.act (.print ("Documentation written to " ++ path.text ++ "\n"))

/-- Print code for a description. -/
def runGenerate (urls : Http.UrlReader) (client : Client) (query language : String) :
    Work Unit := do
  let response ← client.obtain urls (CodeRequest.errand ⟨query, language⟩)
  Work.act (.print (response.generatedCode ++ "\n"))

/-- Carry out a command. -/
def run (urls : Http.UrlReader) : Command → Work Unit
  | .version => Work.act (.print versionText)
  | .quality file language format output => runQuality file language format output
  | .tests file language framework backend => do
    runTests urls (← Work.ofExcept (Client.ofBackend backend) id) file language framework
  | .docs file language projectName output backend => do
    runDocs urls (← Work.ofExcept (Client.ofBackend backend) id) file language projectName output
  | .generate query language backend => do
    runGenerate urls (← Work.ofExcept (Client.ofBackend backend) id) query language

end Command

/-- How the program ends. -/
inductive Ending where
  | done
  | failed (failure : Failure)
  /-- The command line was a misuse, and nothing was done. -/
  | misused
  deriving DecidableEq, Repr

namespace Ending

/-- The status with which the program exits. -/
def exitStatus : Ending → UInt32
  | .done => 0
  | .failed _ => 1
  | .misused => 2

/-- The ending of a command. -/
def ofResult : Except Failure Unit → Ending
  | .ok () => .done
  | .error failure => .failed failure

end Ending

/-- The whole program: carry out what the command line asks for. -/
def runProgram (urls : Http.UrlReader) (environment : Environment) (arguments : List String) :
    Dialogue Action.Result Ending :=
  match Command.ofArguments? environment arguments with
  | some command => (command.run urls).run.bind fun result => .done (.ofResult result)
  | none => .done .misused

end CodeAssistant
