import CodeAssistant.Text.Lower
import CodeAssistant.Text.Search

namespace CodeAssistant

/-!
# Paths

A path is a text with slashes between its names.  It is shown exactly as it was given.  Two readings
of it are needed.  Whoever follows a path takes it step by step, where a slash at its end asks that
it leads to a directory.  What the path is a path *of* is given by its components, for which neither
that slash nor a single dot counts.
-/

/-- A path, as it was given. -/
structure Path where
  text : String
  deriving DecidableEq, Repr

namespace Path

/-- One step on the way. -/
inductive Step where
  | name (name : String)
  | up
  | here
  deriving DecidableEq, Repr

/-- Whether the way starts at the root. -/
def isAbsolute (path : Path) : Bool :=
  path.text.toList.head? == some '/'

/-- The step that a piece between two slashes stands for, if it stands for one. -/
def stepOf? : List Char → Option Step
  | [] => none
  | ['.'] => some .here
  | ['.', '.'] => some .up
  | name => some (.name (String.ofList name))

/-- Whether the path must lead to a directory because of a slash at its end. -/
def endsInSlash (path : Path) : Bool :=
  path.text.toList.getLast? == some '/'

/-- The steps in order. -/
def steps (path : Path) : List Step :=
  (Text.pieces '/' path.text.toList).filterMap stepOf? ++ if path.endsInSlash then [.here] else []

/-- The steps that go somewhere. -/
def components (path : Path) : List Step :=
  path.steps.filter (· ≠ .here)

/-- The text up to the last name, whatever slashes stand after that name. -/
def directoryText (path : Path) : String :=
  String.ofList (Text.dropEndWhile (· != '/') (Text.dropEndWhile (· == '/') path.text.toList))

/-- The name that comes last, unless the path leads upwards or nowhere. -/
def fileName? (path : Path) : Option String :=
  match path.components.getLast? with
  | some (.name name) => some name
  | _ => none

/-- What follows the last dot of the last name.  A dot at its start hides a file and starts no
extension. -/
def extension? (path : Path) : Option String :=
  path.fileName?.bind fun name =>
    let extension := (name.toList.reverse.takeWhile (· != '.')).reverse
    if extension.length + 1 < name.toList.length then some (String.ofList extension) else none

/-- The programming language that the extension stands for, whatever its case. -/
def language? (path : Path) : Option String :=
  path.extension?.bind fun extension =>
    match Text.lower extension with
    | "py" => some "python"
    | "js" | "mjs" | "cjs" | "jsx" => some "javascript"
    | "ts" | "tsx" => some "typescript"
    | "rs" => some "rust"
    | "java" => some "java"
    | "go" => some "go"
    | "rb" => some "ruby"
    | "c" | "h" => some "c"
    | "cc" | "cpp" | "hpp" => some "cpp"
    | "cs" => some "csharp"
    | "sh" => some "shell"
    | "sql" => some "sql"
    | "lua" => some "lua"
    | _ => none

end Path

end CodeAssistant
