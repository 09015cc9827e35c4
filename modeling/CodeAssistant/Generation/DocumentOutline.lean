import CodeAssistant.Generation.Prompt
import CodeAssistant.Text.Blank
import CodeAssistant.Text.Line

namespace CodeAssistant

/-!
# Document outlines

When no generator is available, the document on a piece of code is an outline with the same headings
that quotes the beginning of the code.
-/

/-- How many lines of code an outline quotes. -/
def quotedLineCount : Nat := 20

/-- The lines of code that an outline quotes. -/
def quotedLines (code : String) : List String :=
  (Text.newlineLines (Text.trim code)).take quotedLineCount

/-- The document that stands in for a generated one. -/
def fallbackDocument (code language projectName : String) : String :=
  let fileExtension := String.ofList (language.toList.take 2)
  Prompt.ofLines [
    "## Project Description",
    "The project \"" ++ projectName ++ "\" contains core logic written in " ++ language ++
      ". It processes inputs deterministically and exposes reusable routines you can " ++
      "integrate into larger services.",
    "",
    "## Instructions",
    "1. Prepare a working " ++ language ++ " toolchain or runtime.",
    "2. Copy the snippet into a file (e.g., `main." ++ fileExtension ++
      "`) or incorporate it inside your project.",
    "3. Install or configure any required dependencies mentioned in the code comments.",
    "4. Execute the entry point with the appropriate interpreter or build command.",
    "",
    "## Use Cases",
    "- Baseline scenario: run the main routine with expected inputs to verify behavior.",
    "- Extended scenario: embed the functions into a pipeline and add error handling.",
    "- Testing scenario: pair this module with custom unit tests to validate edge cases.",
    "",
    "## Dependencies",
    "- Proper " ++ language ++ " runtime or compiler.",
    "- Any third-party packages imported by the snippet.",
    "- Environment variables or configuration files referenced by the code.",
    "",
    "---",
    "### Reference code",
    "```",
    Text.join "\n" (quotedLines code),
    "```"]

end CodeAssistant
