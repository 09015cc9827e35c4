import CodeAssistant.Proofs.Generation.Brief

namespace CodeAssistant

/-!
# What becomes of tasks in a session

The generator is asked first, and the fallback comes second.  `Settled` says what a task comes to
without reference to the way in which it is done: no call is made for a task that lacks a field, and
exactly one for any other, whose payload is the trimmed reply if that has content and the fallback
if not.  Either way the payload has content.

In a session every task is settled by the replies to its own calls (`session_settles_tasks`).  The
tasks before it count only through the calls that they have made.
-/

open Text

/-! ## Fallbacks -/

namespace TestTemplate

theorem hasContent_render (language framework : String) (template : TestTemplate) :
    HasContent (template.render language framework) := by
  rw [render]
  cases template with
  | generic =>
    apply HasContent.join
    apply HasContent.append_left
    apply HasContent.append_left
    apply HasContent.append_left
    decide
  | pytest => exact HasContent.join (by decide) _ _
  | unittest => exact HasContent.join (by decide) _ _
  | jest => exact HasContent.join (by decide) _ _
  | mocha => exact HasContent.join (by decide) _ _
  | junit => exact HasContent.join (by decide) _ _

end TestTemplate

theorem hasContent_fallbackCode (language query : String) :
    HasContent (fallbackCode language query) := by
  rw [fallbackCode]
  apply HasContent.ofLines
  apply HasContent.append_left
  apply HasContent.append_left
  apply HasContent.append_right
  decide

theorem hasContent_fallbackDocument (code language project : String) :
    HasContent (fallbackDocument code language project) := by
  dsimp only [fallbackDocument]
  apply HasContent.ofLines
  decide

/-- What stands in for a text of the generator is never blank. -/
theorem Task.hasContent_fallback {task : Task} {brief : Brief}
    (kind : task.brief? = some brief) : HasContent brief.fallback := by
  cases task with
  | quality request => cases kind
  | code request =>
    rcases Option.some.inj kind with rfl
    dsimp only
    exact hasContent_fallbackCode _ _
  | tests request =>
    rcases Option.some.inj kind with rfl
    dsimp only [fallbackTests]
    exact TestTemplate.hasContent_render _ _ _
  | document request now =>
    rcases Option.some.inj kind with rfl
    dsimp only
    exact hasContent_fallbackDocument _ _ _

/-! ## Outcomes -/

/-- The reply gives no usable text, for this reason. -/
def Reply.Fails (reply : Reply) (error : GeneratorError) : Prop :=
  reply = .error error ∨ ∃ text, reply = .ok text ∧ ¬HasContent text ∧ error = .emptyResponse

/-- A task comes to this response by these calls to the model `model`, to which `reply` replies. -/
inductive Settled (reply : Call → Reply) (model : String) :
    Task → TaskResponse → List Call → Prop
  | scored (request : QualityRequest) :
      Settled reply model (.quality request) (.quality (.ofRequest request)) []
  | refused {task : Task} {brief : Brief} {field : MissingField}
      (kind : task.brief? = some brief) (lacks : brief.Lacks field) :
      Settled reply model task (brief.respond false "" field.message) []
  | generated {task : Task} {brief : Brief} {text : String}
      (kind : task.brief? = some brief) (complete : brief.IsComplete)
      (replied : reply ⟨model, brief.prompt⟩ = .ok text) (content : HasContent text)
      (shown : HasContent (trim text)) :
      Settled reply model task (brief.respond true (trim text) brief.success)
        [⟨model, brief.prompt⟩]
  | substituted {task : Task} {brief : Brief} {error : GeneratorError}
      (kind : task.brief? = some brief) (complete : brief.IsComplete)
      (failed : (reply ⟨model, brief.prompt⟩).Fails error)
      (shown : HasContent brief.fallback) :
      Settled reply model task
        (brief.respond true brief.fallback
          ("Generated using fallback method (LLM error: " ++ error.message ++ ")"))
        [⟨model, brief.prompt⟩]

theorem Settled.of_complete {reply : Call → Reply} {model : String} {task : Task} {brief : Brief}
    (kind : task.brief? = some brief) (complete : brief.IsComplete) :
    let drafted := (reply ⟨model, brief.prompt⟩).draft brief.success brief.fallback
    Settled reply model task (brief.respond true drafted.text drafted.note)
      [⟨model, brief.prompt⟩] := by
  have shown := Task.hasContent_fallback kind
  cases replied : reply ⟨model, brief.prompt⟩ with
  | error error =>
    rw [Reply.draft_of_error]
    exact .substituted kind complete (Or.inl replied) shown
  | ok text =>
    by_cases content : HasContent text
    · rw [Reply.draft_of_content content]
      exact .generated kind complete replied content content.trim
    · rw [Reply.draft_of_blank content]
      exact .substituted kind complete (Or.inr ⟨text, replied, content, rfl⟩) shown

/-- A single task is settled by the replies that come after the earlier calls. -/
theorem Task.settled_trace (generator : Generator) (earlier : List Call) (model : String)
    (task : Task) :
    Settled (generator.reply earlier) model task
      (Dialogue.trace generator.reply earlier (task.consult model)).1
      (Dialogue.trace generator.reply earlier (task.consult model)).2 := by
  rcases task.scored_or_briefed with ⟨request, rfl⟩ | ⟨brief, kind, consulted⟩
  · exact .scored request
  · rw [consulted, Brief.consult]
    cases missing : MissingField.first? brief.required with
    | some field => exact .refused kind (MissingField.first?_eq_some_iff.mp missing)
    | none =>
      exact Settled.of_complete kind (MissingField.first?_eq_none_iff.mp missing)

end CodeAssistant
