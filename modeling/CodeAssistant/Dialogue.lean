namespace CodeAssistant

/-!
# Dialogues

An operation that needs something from outside is described as a dialogue: it is finished, or it
asks one question and goes on with the answer.  The description does not say who answers.  A model,
a scripted list of replies, another dialogue (`relay`) or the real world can be put there, and what
the operation does in each case follows from the same definition.
-/

/-- A computation of an `α` that may ask questions `q` and receives answers of type `A q`. -/
inductive Dialogue {Q : Type} (A : Q → Type) (α : Type) where
  | done (result : α)
  | ask (question : Q) (next : A question → Dialogue A α)

namespace Dialogue

variable {Q R : Type} {A : Q → Type} {B : R → Type} {α β σ : Type}

/-- One dialogue after another. -/
def bind : Dialogue A α → (α → Dialogue A β) → Dialogue A β
  | .done result, f => f result
  | .ask question next, f => .ask question fun answer => (next answer).bind f

instance : Monad (Dialogue A) where
  pure := .done
  bind := bind

/-- Conduct the dialogue with a partner whose state changes with every question. -/
def run (partner : σ → (q : Q) → A q × σ) : Dialogue A α → σ → α × σ
  | .done result, state => (result, state)
  | .ask question next, state =>
    (next (partner state question).1).run partner (partner state question).2

/-- Answer every question by a dialogue of another kind. -/
def relay (answerTo : (q : Q) → Dialogue B (A q)) : Dialogue A α → Dialogue B α
  | .done result => .done result
  | .ask question next =>
    (answerTo question).bind fun answer => (next answer).relay answerTo

@[simp]
theorem pure_eq_done (result : α) : (pure result : Dialogue A α) = .done result := rfl

@[simp]
theorem bind_eq (d : Dialogue A α) (f : α → Dialogue A β) : (d >>= f) = d.bind f := rfl

@[simp]
theorem run_done (partner : σ → (q : Q) → A q × σ) (result : α) (state : σ) :
    (Dialogue.done result : Dialogue A α).run partner state = (result, state) := rfl

/-- A sequence of dialogues is conducted by conducting its parts in order. -/
theorem run_bind (partner : σ → (q : Q) → A q × σ) (d : Dialogue A α) (f : α → Dialogue A β)
    (state : σ) :
    (d.bind f).run partner state =
      (f (d.run partner state).1).run partner (d.run partner state).2 := by
  induction d generalizing state with
  | done => rfl
  | ask question next ih => exact ih _ _

end Dialogue

end CodeAssistant
