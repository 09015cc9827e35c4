import CodeAssistant.Generation.Generator
import CodeAssistant.Generation.Prompt
import CodeAssistant.Generation.TestTemplate
import CodeAssistant.MissingField

namespace CodeAssistant

/-!
# Unit tests for a piece of code

A request names the code, its language and the framework; all three are required and are checked in
this order.  A complete request calls the generator once.
-/

/-- What unit tests are wanted for. -/
structure TestsRequest where
  code : String
  language : String
  framework : String
  deriving DecidableEq

/-- The tests, or the remark that says what the request lacks. -/
structure TestsResponse where
  ok : Bool
  tests : String
  language : String
  framework : String
  notes : List String
  deriving DecidableEq

namespace TestsRequest

/-- The first required field that is blank. -/
def missing? (request : TestsRequest) : Option MissingField :=
  MissingField.first?
    [(.code, request.code), (.language, request.language), (.framework, request.framework)]

/-- The prompt for the request. -/
def prompt (request : TestsRequest) : String :=
  Prompt.forTests (Text.trim request.code) (Text.trim request.language)
    (Text.trim request.framework)

/-- The skeleton for the request. -/
def fallback (request : TestsRequest) : String :=
  fallbackTests (Text.trim request.language) (Text.trim request.framework)

/-- The response with the given outcome; it repeats the trimmed language and framework. -/
def respond (request : TestsRequest) (ok : Bool) (tests : String) (notes : List String) :
    TestsResponse :=
  ⟨ok, tests, Text.trim request.language, Text.trim request.framework, notes⟩

/-- Answer the request with the help of a generator. -/
def consult (model : String) (request : TestsRequest) : Consultation TestsResponse :=
  match request.missing? with
  | some missing => .done (request.respond false "" [missing.message])
  | none =>
    (draft ⟨model, request.prompt⟩ "Tests generated successfully" request.fallback).bind
      fun drafted => .done (request.respond true drafted.text [drafted.note])

end TestsRequest

end CodeAssistant
