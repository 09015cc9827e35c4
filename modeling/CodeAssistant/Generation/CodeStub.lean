import CodeAssistant.Generation.Prompt
import CodeAssistant.Text.Line
import CodeAssistant.Text.Lower

namespace CodeAssistant

/-!
# Code stubs

When no generator is available, the code for a request is a stub that restates the request in
comments of the target language.
-/

/-- What starts a line comment in the language. -/
def commentMark (language : String) : String :=
  match Text.lower (Text.trim language) with
  | "python" | "ruby" | "shell" | "bash" | "r" | "perl" | "yaml" => "#"
  | "sql" | "lua" | "haskell" => "--"
  | _ => "//"

/-- The code that stands in for generated code. -/
def fallbackCode (language query : String) : String :=
  let mark := commentMark language
  Prompt.ofLines <|
    [mark ++ " Generated " ++ language ++ " skeleton"] ++
    (Text.newlineLines (Text.trim query)).map (fun line =>
      mark ++ " Request: " ++ Text.trim line) ++
    [mark ++ " TODO: Implement the requested functionality"]

end CodeAssistant
