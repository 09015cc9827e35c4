import CodeAssistant.Proofs.Generation.Brief

namespace CodeAssistant

/-!
# Blanks around the fields of a request

Blanks before and after the fields of a request for generation can be seen neither in the response
nor in the calls (`Generator.consult_of_pads`).  A field is used in many places: it is checked, it
is quoted in the prompt, in the fallback and in the response, and it selects a template or becomes a
part of a file name.  A brief has all of them, and in a brief only the required fields still have
their blanks, which are not seen by the check either.

An optional field is absent, empty or blank without any difference.
-/

namespace Text

/-- The second text is the first one with blanks before and after it. -/
def Pads (s padded : String) : Prop :=
  ∃ before after : List Char, (∀ c ∈ before, isBlank c = true) ∧
    (∀ c ∈ after, isBlank c = true) ∧ padded.toList = before ++ s.toList ++ after

theorem Pads.trim_eq {s padded : String} (pads : Pads s padded) : trim padded = trim s := by
  obtain ⟨before, after, blankBefore, blankAfter, chars⟩ := pads
  rw [trim, chars, trimChars_append_blank blankAfter, trimChars_blank_append blankBefore, trim]

theorem Pads.hasContent_iff {s padded : String} (pads : Pads s padded) :
    HasContent padded ↔ HasContent s := by
  rw [Text.hasContent_iff, Text.hasContent_iff, pads.trim_eq]

/-- The optional text is absent, empty or blank. -/
def IsVacant (field : Option String) : Prop :=
  ∀ text ∈ field, ∀ c ∈ text.toList, isBlank c = true

/-- The second optional text is the first one with blanks before and after it, or neither of them
has anything but blanks. -/
inductive PadsOptional : Option String → Option String → Prop
  | given {s padded : String} (pads : Pads s padded) : PadsOptional (some s) (some padded)
  | vacant {field other : Option String} (first : IsVacant field) (second : IsVacant other) :
      PadsOptional field other

end Text

open Text

theorem labelOr_of_vacant {field : Option String} (vacant : IsVacant field) (default : String) :
    labelOr default field = default := by
  cases field with
  | none => rfl
  | some label =>
    have blank : ¬HasContent label := by
      rintro ⟨c, member, shown⟩
      rw [vacant label rfl c member] at shown
      cases shown
    rw [labelOr, if_neg blank]

theorem labelOr_of_pads {field padded : Option String} (pads : PadsOptional field padded)
    (default : String) : labelOr default padded = labelOr default field := by
  cases pads with
  | given pads => simp only [labelOr, pads.hasContent_iff, pads.trim_eq]
  | vacant first second => rw [labelOr_of_vacant first, labelOr_of_vacant second]

/-- Required fields are checked by their trimmed texts. -/
theorem MissingField.first?_trimmed (fields : List (MissingField × String)) :
    first? (fields.map fun entry => (entry.1, trim entry.2)) = first? fields := by
  induction fields with
  | nil => rfl
  | cons entry fields ih =>
    unfold first? at *
    rw [List.map_cons, List.find?_cons, List.find?_cons, trim_trim]
    cases trim entry.2 == "" with
    | true => rfl
    | false => exact ih

namespace Brief

/-- The brief with its required fields trimmed. -/
def trimmed (brief : Brief) : Brief :=
  { brief with required := brief.required.map fun entry => (entry.1, trim entry.2) }

theorem consult_trimmed (model : String) (brief : Brief) :
    brief.trimmed.consult model = brief.consult model := by
  rw [consult, trimmed, MissingField.first?_trimmed, consult]

end Brief

namespace Task

/-- The second task is the first one with blanks before and after the fields of its request.  The
time at which a document is asked for is the same. -/
inductive Pads : Task → Task → Prop
  | code {request padded : CodeRequest} (query : Text.Pads request.query padded.query)
      (language : Text.Pads request.language padded.language) :
      Pads (.code request) (.code padded)
  | tests {request padded : TestsRequest} (code : Text.Pads request.code padded.code)
      (language : Text.Pads request.language padded.language)
      (framework : Text.Pads request.framework padded.framework) :
      Pads (.tests request) (.tests padded)
  | document {request padded : DocumentRequest} (now : Instant)
      (code : Text.Pads request.code padded.code)
      (language : PadsOptional request.language padded.language)
      (projectName : PadsOptional request.projectName padded.projectName) :
      Pads (.document request now) (.document padded now)

/-- Padding is not seen in the brief, except in the fields that are still to be checked. -/
theorem brief?_of_pads {task padded : Task} (pads : Pads task padded) :
    padded.brief?.map Brief.trimmed = task.brief?.map Brief.trimmed := by
  cases pads with
  | code query language =>
    simp only [brief?, Option.map_some, Brief.trimmed, List.map_cons, List.map_nil,
      query.trim_eq, language.trim_eq]
  | tests code language framework =>
    simp only [brief?, Option.map_some, Brief.trimmed, List.map_cons, List.map_nil,
      code.trim_eq, language.trim_eq, framework.trim_eq]
  | document now code language projectName =>
    simp only [brief?, Option.map_some, Brief.trimmed, List.map_cons, List.map_nil,
      code.trim_eq, labelOr_of_pads language, labelOr_of_pads projectName]

theorem consult_eq_of_pads {task padded : Task} (pads : Pads task padded) (model : String) :
    padded.consult model = task.consult model := by
  have briefs := brief?_of_pads pads
  cases kind : task.brief? with
  | none => cases pads <;> cases kind
  | some brief =>
    rw [kind, Option.map_some, Option.map_eq_some_iff] at briefs
    obtain ⟨other, kindOther, same⟩ := briefs
    calc padded.consult model = other.consult model := consult_of_brief kindOther model
      _ = brief.consult model := by rw [← Brief.consult_trimmed, same, Brief.consult_trimmed]
      _ = task.consult model := (consult_of_brief kind model).symm

end Task

/-- Whatever the generator is and has been asked before, it is asked the same for the fields of a
request as for the fields with blanks around them, and the response is the same. -/
theorem Generator.consult_of_pads (generator : Generator) (earlier : List Call) (model : String)
    {task padded : Task} (pads : task.Pads padded) :
    generator.consult (padded.consult model) earlier =
      generator.consult (task.consult model) earlier := by
  rw [Task.consult_eq_of_pads pads]

/-- The language of the document is not given, or it is given as a blank. -/
theorem Generator.consult_padded_document :
    Task.Pads (.document ⟨"x = 1", none, some "App"⟩ .epoch)
        (.document ⟨"\n x = 1\u3000", some "\t", some "\u00a0App "⟩ .epoch) ∧
      (scripted [.ok " Docs "]).consult (Task.consult "model"
          (.document ⟨"\n x = 1\u3000", some "\t", some "\u00a0App "⟩ .epoch)) [] =
        (scripted [.ok " Docs "]).consult
          (Task.consult "model" (.document ⟨"x = 1", none, some "App"⟩ .epoch)) [] := by
  have code : Text.Pads "x = 1" "\n x = 1\u3000" :=
    ⟨['\n', ' '], ['\u3000'], List.all_eq_true.mp rfl, List.all_eq_true.mp rfl, by decide⟩
  have language : PadsOptional none (some "\t") := by
    apply PadsOptional.vacant
    · intro text member
      cases member
    · rintro text ⟨⟩
      exact List.all_eq_true.mp (by decide)
  have projectName : PadsOptional (some "App") (some "\u00a0App ") :=
    .given ⟨['\u00a0'], [' '], List.all_eq_true.mp rfl, List.all_eq_true.mp rfl, by decide⟩
  have pads : Task.Pads (.document ⟨"x = 1", none, some "App"⟩ .epoch)
      (.document ⟨"\n x = 1\u3000", some "\t", some "\u00a0App "⟩ .epoch) :=
    .document .epoch code language projectName
  exact ⟨pads, consult_of_pads (scripted [.ok " Docs "]) [] "model" pads⟩

end CodeAssistant
