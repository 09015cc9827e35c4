import CodeAssistant.Command.Path
import CodeAssistant.Service.Environment

namespace CodeAssistant

/-!
# Command lines

A command line is the name of a command and its options, in any order and each at most once.  The
value of an option is the next argument or is attached to the option.  Every command line that is
not of this form is a misuse; no command is carried out then.
-/

/-- The forms of a scoring report. -/
inductive ReportFormat where
  | text | json | markdown
  deriving DecidableEq, Repr

namespace ReportFormat

/-- The format of a name. -/
def ofName? : String → Option ReportFormat
  | "text" => some .text
  | "json" => some .json
  | "markdown" => some .markdown
  | _ => none

end ReportFormat

/-- Who does the generating: a server at the given address, or nobody. -/
inductive Backend where
  | server (url : String)
  | offline
  deriving DecidableEq, Repr

/-- What the command line asks for. -/
inductive Command where
  | version
  | quality (file : Path) (language : Option String) (format : ReportFormat)
      (output : Option Path)
  | tests (file : Path) (language framework : String) (backend : Backend)
  | docs (file : Path) (language projectName : Option String) (output : Option Path)
      (backend : Backend)
  | generate (query language : String) (backend : Backend)
  deriving DecidableEq, Repr

/-! ## Options -/

/-- What an option is given. -/
inductive OptionValue where
  | text | path | format | nothing
  deriving DecidableEq, Repr

/-- An option: its name, the letter that stands for it, and what it is given. -/
structure CommandOption where
  name : String
  letter : Option Char
  value : OptionValue
  deriving DecidableEq, Repr

/-- Options and their values, by name. -/
abbrev Given := List (String × String)

namespace CommandOption

/-- Whether the text may be the value of the option. -/
def accepts (option : CommandOption) (value : String) : Bool :=
  match option.value with
  | .text => true
  | .path => value != ""
  | .format => (ReportFormat.ofName? value).isSome
  | .nothing => false

/-- The options given so far and one more, which must not have been given before. -/
def give? (option : CommandOption) (value : String) (given : Given) : Option Given :=
  if (given.lookup option.name).isSome then none else some ((option.name, value) :: given)

end CommandOption

/-- Whether an argument of its own may be the value of the option before it. -/
def isSeparateValue (argument : String) : Bool :=
  argument == "-" || argument.toList.head? != some '-'

/-- The option that an argument starts with, and the value that is attached to it. -/
def optionOf? (options : List CommandOption) (argument : String) :
    Option (CommandOption × Option String) :=
  match argument.toList with
  | '-' :: '-' :: rest =>
    let name := String.ofList (rest.takeWhile (· != '='))
    (options.find? fun option => option.name == name).map fun option =>
      match rest.dropWhile (· != '=') with
      | _ :: value => (option, some (String.ofList value))
      | [] => (option, none)
  | '-' :: letter :: rest =>
    (options.find? fun option => option.letter == some letter).map fun option =>
      match rest with
      | [] => (option, none)
      | '=' :: value => (option, some (String.ofList value))
      | value => (option, some (String.ofList value))
  | _ => none

/-- The options that the arguments give, after those given before.  Two dashes may close the
options, but nothing can follow them. -/
def givenFrom? (options : List CommandOption) (given : Given) : List String → Option Given
  | [] => some given
  | ["--"] => some given
  | argument :: rest =>
    match optionOf? options argument with
    | none => none
    | some (option, some value) =>
      if option.accepts value then
        (option.give? value given).bind fun given => givenFrom? options given rest
      else none
    | some (option, none) =>
      if option.value = .nothing then
        (option.give? "" given).bind fun given => givenFrom? options given rest
      else match rest with
        | [] => none
        | value :: rest =>
          if isSeparateValue value && option.accepts value then
            (option.give? value given).bind fun given => givenFrom? options given rest
          else none

/-! ## Commands -/

/-- The option that names a source file. -/
def fileOption : CommandOption := ⟨"file", some 'f', .path⟩

/-- The option that names a language. -/
def languageOption : CommandOption := ⟨"language", none, .text⟩

/-- The options that choose who does the generating. -/
def backendOptions : List CommandOption :=
  [⟨"server-url", none, .text⟩, ⟨"offline", none, .nothing⟩]

/-- The address of the server where none is given. -/
def defaultServerUrl : String := "http://127.0.0.1:8000"

/-- Who does the generating.  Without an option, the environment names the server. -/
def backendOf (environment : Environment) (given : Given) : Backend :=
  if (given.lookup "offline").isSome then .offline
  else .server ((given.lookup "server-url").getD
    (environment.valueOr "ATUM_API_URL" defaultServerUrl))

namespace Command

/-- The command with the options that the arguments give. -/
def qualityOf? (arguments : List String) : Option Command := do
  let given ← givenFrom?
    [fileOption, languageOption, ⟨"format", none, .format⟩, ⟨"report-output", none, .path⟩] []
    arguments
  let file ← given.lookup "file"
  let format := ((given.lookup "format").bind ReportFormat.ofName?).getD .text
  return .quality ⟨file⟩ (given.lookup "language") format
    ((given.lookup "report-output").map Path.mk)

/-- The command with the options that the arguments give. -/
def testsOf? (environment : Environment) (arguments : List String) : Option Command := do
  let given ← givenFrom?
    ([fileOption, languageOption, ⟨"framework", none, .text⟩] ++ backendOptions) [] arguments
  return .tests ⟨← given.lookup "file"⟩ (← given.lookup "language") (← given.lookup "framework")
    (backendOf environment given)

/-- The command with the options that the arguments give. -/
def docsOf? (environment : Environment) (arguments : List String) : Option Command := do
  let given ← givenFrom?
    ([fileOption, languageOption, ⟨"project-name", none, .text⟩, ⟨"output", some 'o', .path⟩] ++
      backendOptions) [] arguments
  return .docs ⟨← given.lookup "file"⟩ (given.lookup "language") (given.lookup "project-name")
    ((given.lookup "output").map Path.mk) (backendOf environment given)

/-- The command with the options that the arguments give. -/
def generateOf? (environment : Environment) (arguments : List String) : Option Command := do
  let given ← givenFrom?
    ([⟨"query", some 'q', .text⟩, languageOption] ++ backendOptions) [] arguments
  return .generate (← given.lookup "query") (← given.lookup "language")
    (backendOf environment given)

/-- Whether the argument asks for the version.  What is attached to the letter does not matter. -/
def isVersionOption (argument : String) : Bool :=
  argument == "--version" || ['-', 'V'].isPrefixOf argument.toList

/-- What the command line asks for, unless it is a misuse. -/
def ofArguments? (environment : Environment) : List String → Option Command
  | [] => none
  | "quality" :: arguments => qualityOf? arguments
  | "tests" :: arguments => testsOf? environment arguments
  | "docs" :: arguments => docsOf? environment arguments
  | "generate" :: arguments => generateOf? environment arguments
  | argument :: _ => if isVersionOption argument then some .version else none

end Command

end CodeAssistant
