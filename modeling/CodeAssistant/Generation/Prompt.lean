import CodeAssistant.Text.Search

namespace CodeAssistant

/-!
# Prompts

The instructions that a text generator receives.  Each prompt is a fixed text with the trimmed
fields of the request put in verbatim, and every line of it ends with a line feed.
-/

namespace Prompt

/-- The lines, each ended by a line feed. -/
def ofLines (lines : List String) : String :=
  String.join (lines.map (· ++ "\n"))

theorem ofLines_cons (line : String) (lines : List String) :
    ofLines (line :: lines) = line ++ "\n" ++ ofLines lines := by
  rw [ofLines, List.map_cons, String.join_cons, ofLines]

theorem ofLines_append (lines others : List String) :
    ofLines (lines ++ others) = ofLines lines ++ ofLines others := by
  rw [ofLines, List.map_append, String.join_append, ofLines, ofLines]

/-- Ask for source code in a language that does what the query says. -/
def forCode (language query : String) : String :=
  ofLines [
    "You are a professional " ++ language ++ " programmer.",
    "Task: " ++ query,
    "",
    "Requirements:",
    "- Return ONLY " ++ language ++ " code (no explanations, no markdown).",
    "- The code must be complete, production-ready, modular, and maintainable.",
    "- Include concise inline comments (using " ++ language ++ " comment syntax).",
    "- Ensure it compiles and runs without errors."]

/-- Ask for unit tests of the code, written with a framework. -/
def forTests (code language framework : String) : String :=
  ofLines [
    "You are a professional " ++ language ++ " developer specializing in " ++ framework ++
      " testing.",
    "",
    "Task: Generate comprehensive unit tests for the following " ++ language ++ " code:",
    "",
    "```" ++ language,
    code,
    "```",
    "",
    "Requirements:",
    "- Use " ++ framework ++ " testing framework.",
    "- Write complete, production-ready unit tests.",
    "- Cover edge cases, normal cases, and error scenarios.",
    "- Include clear test names and comments.",
    "- Return ONLY the test code (no explanations, no markdown code blocks).",
    "- Ensure the tests are properly structured and can run independently.",
    "- Import necessary testing libraries and modules."]

/-- Ask for a Markdown document on the code, with four fixed headings. -/
def forDocument (code language projectName : String) : String :=
  ofLines [
    "You are a senior software architect. Produce a professional Markdown document in English",
    "for a project named \"" ++ projectName ++ "\" describing the following " ++ language ++
      " code:",
    "",
    "```" ++ language,
    code,
    "```",
    "",
    "Follow this exact structure and keep the headings verbatim:",
    "",
    "## Project Description",
    "Summarize what the code solves, its core components, inputs, and outputs " ++
      "(max 2 short paragraphs).",
    "",
    "## Instructions",
    "Provide numbered, actionable steps to run the code, including prerequisites and commands.",
    "",
    "## Use Cases",
    "List practical scenarios or examples where this code is helpful. " ++
      "Use bullet points or short code snippets.",
    "",
    "## Dependencies",
    "Enumerate required configurations, environment variables, external services, or libraries.",
    "",
    "Rules:",
    "- Write everything in English only.",
    "- Return only the Markdown content. Do not wrap the entire document in code fences.",
    "- Be specific and avoid boilerplate sentences."]

end Prompt

end CodeAssistant
