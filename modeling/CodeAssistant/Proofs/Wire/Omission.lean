import CodeAssistant.Proofs.Json.Records
import CodeAssistant.Proofs.Text.Content
import CodeAssistant.Service.Endpoint

namespace CodeAssistant

/-!
# What is left out

The record of a task may be given as an object, with its fields in any order and among other
members, or as an array of its first fields.  What is left out has a *vacant* value: the empty text,
or null where the field is optional.  A task depends on nothing but the values of its fields, vacant
ones included (`decode?_of_gives`), so a field that is left out is the same as one that is given its
vacant value, and it is for the check of the required fields to notice that it is blank.
-/

open Text

namespace Json

/-- A field with the given vacant value accepts the part: every text, and null if it is optional. -/
inductive Suits (vacant : Json) : Json → Prop
  | text (text : String) : Suits vacant (.string text)
  | null (optional : vacant = .null) : Suits vacant .null

theorem Suits.exists_text {text : String} {value : Json} (suits : Suits (.string text) value) :
    ∃ text, value = .string text := by
  cases suits with
  | text text => exact ⟨text, rfl⟩
  | null optional => cases optional

theorem Suits.exists_label {vacant value : Json} (suits : Suits vacant value) :
    ∃ label, optional? text? value = some label := by
  cases suits with
  | text text => exact ⟨some text, rfl⟩
  | null optional => exact ⟨none, rfl⟩

/-- The text of a field. -/
def fieldText : Json → String
  | .string text => text
  | _ => ""

theorem Fields.lookup_filter {fields : Fields} {keep : String → Bool} {name : String}
    (kept : keep name = true) :
    (fields.filter fun field => keep field.1).lookup name = fields.lookup name := by
  induction fields with
  | nil => rfl
  | cons field fields ih =>
    rcases field with ⟨key, value⟩
    rw [List.lookup_cons, List.filter_cons]
    by_cases same : name = key
    · subst same
      rw [if_pos kept, List.lookup_cons, beq_self_eq_true]
    · have other : (name == key) = false := beq_eq_false_iff_ne.mpr same
      rw [other]
      by_cases known : keep key = true
      · rw [if_pos known, List.lookup_cons, other]
        exact ih
      · rw [if_neg known]
        exact ih

/-- To leave a field out is to give it a value that stands for the default. -/
theorem Fields.withDefault_eq {fields : Fields} {name : String} {default : α}
    {decode : Json → Option α} {vacant : Json} (stands : decode vacant = some default) :
    fields.withDefault name default decode = decode ((fields.lookup name).getD vacant) := by
  rw [Fields.withDefault]
  cases fields.lookup name with
  | none => exact stands.symm
  | some value => rfl

end Json

open Json

/-- The key of a required field. -/
def MissingField.key : MissingField → String
  | .code => "code"
  | .query => "query"
  | .language => "language"
  | .framework => "framework"

/-- The texts of the required fields of a task, in the order in which they are checked. -/
def Task.required : Task → List (MissingField × String)
  | .code request => [(.query, request.query), (.language, request.language)]
  | .tests request =>
    [(.code, request.code), (.language, request.language), (.framework, request.framework)]
  | .document request _ => [(.code, request.code)]
  | .quality request => [(.code, request.code)]

/-- The kind of a task. -/
def Task.kind : Task → TaskKind
  | .code _ => .code
  | .tests _ => .tests
  | .document _ _ => .document
  | .quality _ => .quality

namespace TaskKind

/-- The fields of the record in the order of their declaration, with their vacant values. -/
def fields : TaskKind → List (String × Json)
  | .code => [("query", .string ""), ("language", .string "")]
  | .tests => [("code", .string ""), ("language", .string ""), ("framework", .string "")]
  | .document => [("code", .string ""), ("language", .null), ("project_name", .null)]
  | .quality => [("code", .string ""), ("language", .null)]

/-- The required fields in the order in which they are checked. -/
def required : TaskKind → List MissingField
  | .code => [.query, .language]
  | .tests => [.code, .language, .framework]
  | .document | .quality => [.code]

variable (kind : TaskKind)

/-- The keys of the fields. -/
def keys : List String :=
  kind.fields.map Prod.fst

/-- The value gives these parts to the fields, and nothing to those that have none.  An object gives
no field twice, and an array gives the first fields. -/
inductive Gives : Json → (String → Option Json) → Prop
  | object {members : List (String × Json)}
      (once : ∀ key ∈ kind.keys, (members.map Prod.fst).count key ≤ 1) :
      Gives (.object members) fun key => members.lookup key
  | array {items : List Json} (short : items.length ≤ kind.keys.length) :
      Gives (.array items) fun key => (kind.keys.zip items).lookup key

/-- The value of a field, vacant if it is left out. -/
def part (given : String → Option Json) (key : String) : Json :=
  (given key).getD ((kind.fields.lookup key).getD .null)

/-- The task whose fields have these values. -/
def assemble (now : Instant) (part : String → Json) : TaskKind → Option Task
  | .code => Option.map .code do
    return ⟨← text? (part "query"), ← text? (part "language")⟩
  | .tests => Option.map .tests do
    return ⟨← text? (part "code"), ← text? (part "language"), ← text? (part "framework")⟩
  | .document => Option.map (fun request => .document request now) do
    return ⟨← text? (part "code"), ← optional? text? (part "language"),
      ← optional? text? (part "project_name")⟩
  | .quality => Option.map .quality do
    return ⟨← text? (part "code"), ← optional? text? (part "language")⟩

variable {kind} {value other : Json} {given given' : String → Option Json}

/-! ## Decoding -/

theorem Gives.exists_fields? (gives : kind.Gives value given) :
    ∃ fields, value.fields? kind.keys = some fields ∧
      ∀ key ∈ kind.keys, fields.lookup key = given key := by
  cases gives with
  | @object members once =>
    have distinct : ((members.filter fun member => kind.keys.contains member.1).map
        Prod.fst).Nodup := by
      rw [List.nodup_iff_count]
      intro key
      by_cases known : key ∈ kind.keys
      · exact Nat.le_trans ((List.filter_sublist.map Prod.fst).count_le key) (once key known)
      · have absent : key ∉ (members.filter fun member => kind.keys.contains member.1).map
            Prod.fst := by
          intro found
          rcases List.mem_map.mp found with ⟨member, kept, rfl⟩
          exact known (List.contains_iff_mem.mp (List.mem_filter.mp kept).2)
        rw [List.count_eq_zero.mpr absent]
        exact Nat.zero_le 1
    refine ⟨_, if_pos distinct, ?_⟩
    intro key known
    exact Fields.lookup_filter (List.contains_iff_mem.mpr known)
  | @array items short => exact ⟨_, if_pos short, fun _ _ => rfl⟩

theorem withDefault_part {fields : Fields} {key : String} {vacant : Json} {default : α}
    {decode : Json → Option α} (looked : fields.lookup key = given key)
    (listed : kind.fields.lookup key = some vacant) (stands : decode vacant = some default) :
    fields.withDefault key default decode = decode (kind.part given key) := by
  rw [Fields.withDefault_eq stands, looked, part, listed, Option.getD_some]

/-- The task depends on the values of its fields only. -/
theorem decode?_of_gives (gives : kind.Gives value given) (now : Instant) :
    kind.decode? now value = kind.assemble now (kind.part given) := by
  rcases gives.exists_fields? with ⟨fields, read, looked⟩
  have text : text? (.string "") = some "" := rfl
  have label : optional? text? .null = some none := rfl
  cases kind with
  | code =>
    have read : value.fields? CodeRequest.fieldNames = some fields := read
    rw [decode?, CodeRequest.ofJson?, read, assemble,
      ← withDefault_part (looked "query" (by decide)) rfl text,
      ← withDefault_part (looked "language" (by decide)) rfl text]
    rfl
  | tests =>
    have read : value.fields? TestsRequest.fieldNames = some fields := read
    rw [decode?, TestsRequest.ofJson?, read, assemble,
      ← withDefault_part (looked "code" (by decide)) rfl text,
      ← withDefault_part (looked "language" (by decide)) rfl text,
      ← withDefault_part (looked "framework" (by decide)) rfl text]
    rfl
  | document =>
    have read : value.fields? DocumentRequest.fieldNames = some fields := read
    rw [decode?, DocumentRequest.ofJson?, read, assemble,
      ← withDefault_part (looked "code" (by decide)) rfl text,
      ← withDefault_part (looked "language" (by decide)) rfl label,
      ← withDefault_part (looked "project_name" (by decide)) rfl label]
    rfl
  | quality =>
    have read : value.fields? QualityRequest.fieldNames = some fields := read
    rw [decode?, QualityRequest.ofJson?, read, assemble,
      ← withDefault_part (looked "code" (by decide)) rfl text,
      ← withDefault_part (looked "language" (by decide)) rfl label]
    rfl

theorem assemble_congr {parts parts' : String → Json}
    (same : ∀ key ∈ kind.keys, parts key = parts' key) (now : Instant) :
    kind.assemble now parts = kind.assemble now parts' := by
  cases kind with
  | code =>
    rw [assemble, same "query" (by decide), same "language" (by decide), assemble]
  | tests =>
    rw [assemble, same "code" (by decide), same "language" (by decide),
      same "framework" (by decide), assemble]
  | document =>
    rw [assemble, same "code" (by decide), same "language" (by decide),
      same "project_name" (by decide), assemble]
  | quality =>
    rw [assemble, same "code" (by decide), same "language" (by decide), assemble]

theorem lookup_fields : ∀ field ∈ kind.fields, kind.fields.lookup field.1 = some field.2 := by
  cases kind <;> simp [fields, List.lookup_cons]

/-- What stands for a field that is left out is accepted. -/
theorem suits_vacant : ∀ field ∈ kind.fields, Suits field.2 field.2 := by
  have text : Suits (.string "") (.string "") := .text ""
  have null : Suits .null .null := .null rfl
  cases kind <;> simp [fields, text, null]

theorem part_of_mem {field : String × Json} (member : field ∈ kind.fields) :
    kind.part given field.1 = (given field.1).getD field.2 := by
  rw [part, lookup_fields field member, Option.getD_some]

/-- A field that is left out may as well be given its vacant value. -/
theorem decode?_of_completed (gives : kind.Gives value given) (complete : kind.Gives other given')
    (completed : ∀ field ∈ kind.fields, given' field.1 = some ((given field.1).getD field.2))
    (now : Instant) : kind.decode? now value = kind.decode? now other := by
  rw [decode?_of_gives gives, decode?_of_gives complete]
  apply assemble_congr
  intro key known
  rcases List.mem_map.mp known with ⟨field, member, rfl⟩
  rw [part_of_mem member, part_of_mem member, completed field member, Option.getD_some]

/-- Fields of the right kind make a record, whichever of them are left out. -/
theorem assemble_of_suits {parts : String → Json}
    (suits : ∀ field ∈ kind.fields, Suits field.2 (parts field.1)) (now : Instant) :
    ∃ task, kind.assemble now parts = some task ∧ task.kind = kind ∧
      task.required = kind.required.map fun field => (field, fieldText (parts field.key)) := by
  cases kind with
  | code =>
    simp only [fields, List.forall_mem_cons] at suits
    rcases suits.1.exists_text with ⟨query, hasQuery⟩
    rcases suits.2.1.exists_text with ⟨language, hasLanguage⟩
    refine ⟨.code ⟨query, language⟩, ?_, rfl, ?_⟩
    · rw [assemble, hasQuery, hasLanguage]
      rfl
    · simp only [Task.required, required, List.map_cons, List.map_nil, MissingField.key, hasQuery,
        hasLanguage, fieldText]
  | tests =>
    simp only [fields, List.forall_mem_cons] at suits
    rcases suits.1.exists_text with ⟨code, hasCode⟩
    rcases suits.2.1.exists_text with ⟨language, hasLanguage⟩
    rcases suits.2.2.1.exists_text with ⟨framework, hasFramework⟩
    refine ⟨.tests ⟨code, language, framework⟩, ?_, rfl, ?_⟩
    · rw [assemble, hasCode, hasLanguage, hasFramework]
      rfl
    · simp only [Task.required, required, List.map_cons, List.map_nil, MissingField.key, hasCode,
        hasLanguage, hasFramework, fieldText]
  | document =>
    simp only [fields, List.forall_mem_cons] at suits
    rcases suits.1.exists_text with ⟨code, hasCode⟩
    rcases suits.2.1.exists_label with ⟨language, hasLanguage⟩
    rcases suits.2.2.1.exists_label with ⟨projectName, hasProjectName⟩
    refine ⟨.document ⟨code, language, projectName⟩ now, ?_, rfl, ?_⟩
    · rw [assemble, hasCode, hasLanguage, hasProjectName]
      rfl
    · simp only [Task.required, required, List.map_cons, List.map_nil, MissingField.key, hasCode,
        fieldText]
  | quality =>
    simp only [fields, List.forall_mem_cons] at suits
    rcases suits.1.exists_text with ⟨code, hasCode⟩
    rcases suits.2.1.exists_label with ⟨language, hasLanguage⟩
    refine ⟨.quality ⟨code, language⟩, ?_, rfl, ?_⟩
    · rw [assemble, hasCode, hasLanguage]
      rfl
    · simp only [Task.required, required, List.map_cons, List.map_nil, MissingField.key, hasCode,
        fieldText]

/-- A record is made as long as what is given suits the fields. -/
theorem exists_task_of_gives (gives : kind.Gives value given)
    (suitable : ∀ field ∈ kind.fields, ∀ part, given field.1 = some part → Suits field.2 part)
    (now : Instant) :
    ∃ task, kind.decode? now value = some task ∧ task.kind = kind ∧
      task.required = kind.required.map fun field =>
        (field, fieldText (kind.part given field.key)) := by
  rw [decode?_of_gives gives]
  apply assemble_of_suits
  intro field member
  rw [part_of_mem member]
  cases present : given field.1 with
  | some part => exact suitable field member part present
  | none => exact suits_vacant field member

/-! ## Required fields -/

variable (kind) in
/-- The field is the first of the required ones that is not given a text with content. -/
def Lacks (given : String → Option Json) (field : MissingField) : Prop :=
  ∃ before after, kind.required = before ++ field :: after ∧
    (∀ earlier ∈ before, ∃ text, given earlier.key = some (.string text) ∧ HasContent text) ∧
    ¬∃ text, given field.key = some (.string text) ∧ HasContent text

/-- Whatever is left out has no content. -/
theorem hasContent_part_iff (field : MissingField) :
    HasContent (fieldText (kind.part given field.key)) ↔
      ∃ text, given field.key = some (.string text) ∧ HasContent text := by
  have vacant : fieldText ((kind.fields.lookup field.key).getD .null) = "" := by
    cases kind <;> cases field <;> rfl
  have blank : ¬HasContent "" := by simp [HasContent]
  rw [part]
  cases given field.key with
  | none => simp [vacant, blank]
  | some value =>
    rw [Option.getD_some]
    cases value <;> simp [fieldText, blank]

theorem first?_required_iff {field : MissingField} :
    MissingField.first? (kind.required.map fun field =>
        (field, fieldText (kind.part given field.key))) = some field ↔ kind.Lacks given field := by
  have blank_iff (field : MissingField) : trim (fieldText (kind.part given field.key)) = "" ↔
      ¬∃ text, given field.key = some (.string text) ∧ HasContent text := by
    rw [← hasContent_part_iff, hasContent_iff, Classical.not_not]
  have names : (Prod.fst ∘ fun field : MissingField =>
      (field, fieldText (kind.part given field.key))) = id := rfl
  rw [MissingField.first?, List.find?_map, Option.map_map, names, Option.map_id, id_eq,
    List.find?_eq_some_iff_append, Lacks]
  simp only [Function.comp_apply, beq_iff_eq, Bool.not_eq_true', beq_eq_false_iff_ne, ne_eq,
    blank_iff, Classical.not_not]
  constructor
  · rintro ⟨blank, before, after, split, passed⟩
    exact ⟨before, after, split, passed, blank⟩
  · rintro ⟨before, after, split, passed, blank⟩
    exact ⟨blank, before, after, split, passed⟩

/-- If a required field is left out, one of them is the first to be missing. -/
theorem exists_lacks (absent : ∃ field ∈ kind.required, given field.key = none) :
    ∃ field, kind.Lacks given field := by
  rcases absent with ⟨field, needed, absent⟩
  cases first : MissingField.first? (kind.required.map fun field =>
      (field, fieldText (kind.part given field.key))) with
  | some found => exact ⟨found, first?_required_iff.mp first⟩
  | none =>
    have content := MissingField.first?_eq_none_iff.mp first (field, _)
      (List.mem_map.mpr ⟨field, needed, rfl⟩)
    rcases (hasContent_part_iff field).mp content with ⟨text, present, -⟩
    cases absent.symm.trans present

end TaskKind

end CodeAssistant
