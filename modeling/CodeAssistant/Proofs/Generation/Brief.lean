import CodeAssistant.Generation.Task
import CodeAssistant.Proofs.Dialogue
import CodeAssistant.Proofs.Text.Content

namespace CodeAssistant

/-!
# What the tasks of generation have in common

Code, tests and documents are asked for in three requests with different fields, but what is done
with them is the same.  The *brief* of a task says what is particular to it: which fields must be
there, what a generator is told, what stands in for its text, and into which record the outcome
goes.  All of them are handled alike (`consult_of_brief`): a brief that lacks a field is returned,
and any other is one question to the generator, whose reply is made into a response.
-/

open Text

/-- The particulars of a task of generation. -/
structure Brief where
  /-- The fields that need content, in the order in which they are checked. -/
  required : List (MissingField × String)
  prompt : String
  /-- The note on a text of the generator. -/
  success : String
  /-- The text that stands in for one of the generator. -/
  fallback : String
  /-- The response with a flag, a payload and the only note. -/
  respond : Bool → String → String → TaskResponse

/-- The trimmed text of an optional field, or the default where it has no content. -/
def labelOr (default : String) : Option String → String
  | none => default
  | some label => if HasContent label then trim label else default

namespace Task

/-- The brief of a task, unless the task is to score code. -/
def brief? : Task → Option Brief
  | .code request => some {
      required := [(.query, request.query), (.language, request.language)]
      prompt := Prompt.forCode (trim request.language) (trim request.query)
      success := "Code generated successfully"
      fallback := fallbackCode (trim request.language) (trim request.query)
      respond := fun ok payload note =>
        .code ⟨ok, trim request.query, trim request.language, payload, [note]⟩ }
  | .tests request => some {
      required := [(.code, request.code), (.language, request.language),
        (.framework, request.framework)]
      prompt := Prompt.forTests (trim request.code) (trim request.language)
        (trim request.framework)
      success := "Tests generated successfully"
      fallback := fallbackTests (trim request.language) (trim request.framework)
      respond := fun ok payload note =>
        .tests ⟨ok, payload, trim request.language, trim request.framework, [note]⟩ }
  | .document request now =>
    let language := labelOr "the provided code" request.language
    let project := labelOr "Proyecto Atum" request.projectName
    some {
      required := [(.code, request.code)]
      prompt := Prompt.forDocument (trim request.code) language project
      success := "Documentation generated successfully"
      fallback := fallbackDocument (trim request.code) language project
      respond := fun ok payload note =>
        .document ⟨ok, if ok then documentFilename project now else "", payload, [note]⟩ }
  | .quality _ => none

end Task

namespace Brief

/-- The field is the first one without content. -/
def Lacks (brief : Brief) (field : MissingField) : Prop :=
  ∃ before text after, brief.required = before ++ (field, text) :: after ∧
    (∀ entry ∈ before, HasContent entry.2) ∧ ¬HasContent text

/-- All required fields have content. -/
def IsComplete (brief : Brief) : Prop :=
  ∀ entry ∈ brief.required, HasContent entry.2

end Brief

/-! ## One question at most -/

/-- The draft that a reply gives. -/
def Reply.draft (success fallback : String) (reply : Reply) : Draft :=
  match reply.usable with
  | .ok text => ⟨text, success⟩
  | .error error => ⟨fallback, error.note⟩

theorem Reply.draft_of_content {text : String} (content : HasContent text)
    (success fallback : String) :
    Reply.draft success fallback (.ok text) = ⟨trim text, success⟩ := by
  rw [draft, usable, nonBlank?_of_hasContent content]

theorem Reply.draft_of_blank {text : String} (blank : ¬HasContent text)
    (success fallback : String) :
    Reply.draft success fallback (.ok text) =
      ⟨fallback, GeneratorError.note .emptyResponse⟩ := by
  rw [draft, usable, nonBlank?_of_not_hasContent blank]

theorem Reply.draft_of_error (error : GeneratorError) (success fallback : String) :
    Reply.draft success fallback (.error error) = ⟨fallback, error.note⟩ := rfl

theorem draft_bind_done (call : Call) (success fallback : String) (form : Draft → α) :
    ((CodeAssistant.draft call success fallback).bind fun drafted => .done (form drafted)) =
      .ask call fun reply => .done (form (reply.draft success fallback)) := by
  have replies (reply : Reply) :
      ((match reply.usable with
        | .ok text => .done ⟨text, success⟩
        | .error error => .done ⟨fallback, error.note⟩ : Consultation Draft).bind
          fun drafted => .done (form drafted)) =
        .done (form (reply.draft success fallback)) := by
    unfold Reply.draft
    cases reply.usable <;> rfl
  exact congrArg (Dialogue.ask call) (funext replies)

/-- What is done with a brief. -/
def Brief.consult (model : String) (brief : Brief) : Consultation TaskResponse :=
  match MissingField.first? brief.required with
  | some field => .done (brief.respond false "" field.message)
  | none => .ask ⟨model, brief.prompt⟩ fun reply =>
      let drafted := reply.draft brief.success brief.fallback
      .done (brief.respond true drafted.text drafted.note)

theorem getD_bind_nonBlank? (default : String) (field : Option String) :
    (field.bind nonBlank?).getD default = labelOr default field := by
  cases field with
  | none => rfl
  | some label =>
    by_cases content : HasContent label
    · rw [Option.bind_some, nonBlank?_of_hasContent content, labelOr, if_pos content,
        Option.getD_some]
    · rw [Option.bind_some, nonBlank?_of_not_hasContent content, labelOr, if_neg content,
        Option.getD_none]

theorem Task.consult_of_brief {task : Task} {brief : Brief} (kind : task.brief? = some brief)
    (model : String) : task.consult model = brief.consult model := by
  cases task with
  | quality request => cases kind
  | code request =>
    rcases Option.some.inj kind with rfl
    rw [Task.consult, CodeRequest.consult, Brief.consult, CodeRequest.missing?]
    cases MissingField.first? [(.query, request.query), (.language, request.language)] with
    | some field => rfl
    | none =>
      simp only [draft_bind_done]
      rfl
  | tests request =>
    rcases Option.some.inj kind with rfl
    rw [Task.consult, TestsRequest.consult, Brief.consult, TestsRequest.missing?]
    cases MissingField.first? [(.code, request.code), (.language, request.language),
        (.framework, request.framework)] with
    | some field => rfl
    | none =>
      simp only [draft_bind_done]
      rfl
  | document request now =>
    rcases Option.some.inj kind with rfl
    rw [Task.consult, DocumentRequest.consult, Brief.consult, DocumentRequest.missing?]
    cases MissingField.first? [(.code, request.code)] with
    | some field => rfl
    | none =>
      simp only [draft_bind_done, DocumentRequest.prompt, DocumentRequest.fallback,
        DocumentRequest.languageLabel, DocumentRequest.projectLabel, getD_bind_nonBlank?]
      rfl

/-- A task is to score code, or is done as its brief says. -/
theorem Task.scored_or_briefed (task : Task) :
    (∃ request, task = .quality request) ∨ ∃ brief, task.brief? = some brief ∧
      ∀ model, task.consult model = brief.consult model := by
  cases kind : task.brief? with
  | some brief => exact Or.inr ⟨brief, rfl, Task.consult_of_brief kind⟩
  | none =>
    cases task with
    | quality request => exact Or.inl ⟨request, rfl⟩
    | code request => cases kind
    | tests request => cases kind
    | document request now => cases kind

end CodeAssistant
