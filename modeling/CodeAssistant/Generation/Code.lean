import CodeAssistant.Generation.CodeStub
import CodeAssistant.Generation.Generator
import CodeAssistant.MissingField

namespace CodeAssistant

/-!
# Source code from a description

A request says what the code should do and in which language; both are required and are checked in
this order.
-/

/-- What code is wanted for. -/
structure CodeRequest where
  query : String
  language : String
  deriving DecidableEq

/-- The code, or the remark that says what the request lacks. -/
structure CodeResponse where
  ok : Bool
  query : String
  language : String
  generatedCode : String
  notes : List String
  deriving DecidableEq

namespace CodeRequest

/-- The first required field that is blank. -/
def missing? (request : CodeRequest) : Option MissingField :=
  MissingField.first? [(.query, request.query), (.language, request.language)]

/-- The prompt for the request. -/
def prompt (request : CodeRequest) : String :=
  Prompt.forCode (Text.trim request.language) (Text.trim request.query)

/-- The stub for the request. -/
def fallback (request : CodeRequest) : String :=
  fallbackCode (Text.trim request.language) (Text.trim request.query)

/-- The response with the given outcome; it repeats the trimmed query and language. -/
def respond (request : CodeRequest) (ok : Bool) (code : String) (notes : List String) :
    CodeResponse :=
  ⟨ok, Text.trim request.query, Text.trim request.language, code, notes⟩

/-- Answer the request with the help of a generator. -/
def consult (model : String) (request : CodeRequest) : Consultation CodeResponse :=
  match request.missing? with
  | some missing => .done (request.respond false "" [missing.message])
  | none =>
    (draft ⟨model, request.prompt⟩ "Code generated successfully" request.fallback).bind
      fun drafted => .done (request.respond true drafted.text [drafted.note])

end CodeRequest

end CodeAssistant
