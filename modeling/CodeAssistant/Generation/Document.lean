import CodeAssistant.Calendar.Instant
import CodeAssistant.Generation.DocumentOutline
import CodeAssistant.Generation.Generator
import CodeAssistant.MissingField
import CodeAssistant.Text.Alphanumeric
import CodeAssistant.Text.Casing

namespace CodeAssistant

/-!
# Markdown documents on a piece of code

Only the code is required; a language or project name that is missing or blank has a default.  The
response suggests a file name that is made of the project name and the time of the request, and that
is always a single path component: every character of the project name that is not alphanumeric
becomes an underscore.
-/

/-- What a document is wanted on. -/
structure DocumentRequest where
  code : String
  language : Option String
  projectName : Option String
  deriving DecidableEq

/-- The document, or the remark that says what the request lacks. -/
structure DocumentResponse where
  ok : Bool
  filename : String
  content : String
  notes : List String
  deriving DecidableEq

/-- The characters by which a file name renders a character of a project name.  The case is changed
character by character, so a capital sigma never takes its final form. -/
def filenameChars (c : Char) : List Char :=
  if Text.isAlphanumeric c then Text.lowerChar c else ['_']

/-- The part of a file name that stands for the project. -/
def filenameBase (projectName : String) : String :=
  if projectName = "" then "atum_project"
  else String.ofList (projectName.toList.flatMap filenameChars)

/-- The file name for a document on the project made at the given time. -/
def documentFilename (projectName : String) (now : Instant) : String :=
  filenameBase projectName ++ "_documentation_" ++ now.stamp ++ ".md"

namespace DocumentRequest

/-- The first required field that is blank. -/
def missing? (request : DocumentRequest) : Option MissingField :=
  MissingField.first? [(.code, request.code)]

/-- What the document calls the language. -/
def languageLabel (request : DocumentRequest) : String :=
  (request.language.bind Text.nonBlank?).getD "the provided code"

/-- What the document calls the project. -/
def projectLabel (request : DocumentRequest) : String :=
  (request.projectName.bind Text.nonBlank?).getD "Proyecto Atum"

/-- The prompt for the request. -/
def prompt (request : DocumentRequest) : String :=
  Prompt.forDocument (Text.trim request.code) request.languageLabel request.projectLabel

/-- The outline for the request. -/
def fallback (request : DocumentRequest) : String :=
  fallbackDocument (Text.trim request.code) request.languageLabel request.projectLabel

/-- Answer the request, made at the given time, with the help of a generator. -/
def consult (model : String) (now : Instant) (request : DocumentRequest) :
    Consultation DocumentResponse :=
  match request.missing? with
  | some missing => .done ⟨false, "", "", [missing.message]⟩
  | none =>
    (draft ⟨model, request.prompt⟩ "Documentation generated successfully" request.fallback).bind
      fun drafted =>
        .done ⟨true, documentFilename request.projectLabel now, drafted.text, [drafted.note]⟩

end DocumentRequest

end CodeAssistant
