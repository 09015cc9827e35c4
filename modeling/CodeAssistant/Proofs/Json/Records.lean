import CodeAssistant.Json.Record

namespace CodeAssistant
namespace Json

/-!
# Decoding records

What a decoder accepts is said without the decoder: a list is accepted item by item, and a field is
accepted when it is there and its value is.
-/

/-- A list that is encoded item by item is decoded to itself. -/
theorem mapM_map {encode : α → β} {decode : β → Option α}
    (inverse : ∀ item, decode (encode item) = some item) (items : List α) :
    (items.map encode).mapM decode = some items := by
  induction items with
  | nil => rfl
  | cons item items ih =>
    rw [List.map_cons, List.mapM_cons, inverse, ih]
    rfl

theorem exists_mapM_eq_some_iff {decode : α → Option β} {items : List α} :
    (∃ results, items.mapM decode = some results) ↔
      ∀ item ∈ items, ∃ result, decode item = some result := by
  induction items with
  | nil => simp
  | cons item items ih =>
    simp only [List.mapM_cons, Option.bind_eq_bind, Option.bind_eq_some_iff, Option.pure_def,
      Option.some.injEq, List.forall_mem_cons, ← ih]
    constructor
    · rintro ⟨_, result, first, others, rest, _⟩
      exact ⟨⟨result, first⟩, others, rest⟩
    · rintro ⟨⟨result, first⟩, others, rest⟩
      exact ⟨_, result, first, others, rest, rfl⟩

/-- An object that gives every field once, such as the one that is written for a record, is read as
it stands. -/
theorem fields?_object {names : List String} {members : List (String × Json)}
    (keys : members.map Prod.fst = names) (distinct : names.Nodup) :
    fields? names (.object members) = some members := by
  have known : members.filter (fun member => names.contains member.1) = members := by
    rw [List.filter_eq_self, ← keys]
    intro member found
    exact List.contains_iff_mem.mpr (List.mem_map_of_mem found)
  rw [fields?]
  simp only [known]
  rw [if_pos (keys ▸ distinct)]

/-- The value is a record with the only field `name`, which has the value `part`. -/
def HasField (value : Json) (name : String) (part : Json) : Prop :=
  ∃ fields, value.fields? [name] = some fields ∧ fields.lookup name = some part

theorem bind_required_eq_some_iff {value : Json} {name : String} {decode : Json → Option α}
    {content : α} :
    ((value.fields? [name]).bind fun fields => fields.required name decode) = some content ↔
      ∃ part, HasField value name part ∧ decode part = some content := by
  simp only [HasField, Fields.required, Option.bind_eq_some_iff]
  constructor
  · rintro ⟨fields, present, part, found, decoded⟩
    exact ⟨part, ⟨fields, present, found⟩, decoded⟩
  · rintro ⟨part, ⟨fields, present, found⟩, decoded⟩
    exact ⟨fields, present, part, found, decoded⟩

end Json
end CodeAssistant
