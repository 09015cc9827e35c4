import CodeAssistant.Generation.Prompt
import CodeAssistant.MissingField
import CodeAssistant.Proofs.Text.Trimming

namespace CodeAssistant

/-!
# Texts with content

A text has content when some character of it is not blank.  That is what a required field must have,
what makes a reply usable, and what every payload of an accepted request has.
-/

namespace Text

/-- Some character of the text is not blank. -/
def HasContent (s : String) : Prop :=
  ∃ c ∈ s.toList, isBlank c = false

instance (s : String) : Decidable (HasContent s) :=
  decidable_of_iff (s.toList.any (fun c => !isBlank c) = true) (by simp [HasContent])

variable {s t : String}

theorem hasContent_iff : HasContent s ↔ trim s ≠ "" := by
  rw [ne_eq, trim_eq_empty_iff]
  simp [HasContent]

theorem trim_of_not_hasContent (blank : ¬HasContent s) : trim s = "" :=
  Classical.not_not.mp fun content => blank (hasContent_iff.mpr content)

theorem HasContent.trim (content : HasContent s) : HasContent (trim s) := by
  rw [hasContent_iff] at content ⊢
  rwa [trim_trim]

theorem HasContent.append_left (content : HasContent s) (t : String) : HasContent (s ++ t) := by
  rcases content with ⟨c, member, shown⟩
  refine ⟨c, ?_, shown⟩
  rw [String.toList_append]
  exact List.mem_append_left _ member

theorem HasContent.append_right (s : String) (content : HasContent t) : HasContent (s ++ t) := by
  rcases content with ⟨c, member, shown⟩
  refine ⟨c, ?_, shown⟩
  rw [String.toList_append]
  exact List.mem_append_right _ member

theorem HasContent.join (content : HasContent s) (separator : String) (words : List String) :
    HasContent (Text.join separator (s :: words)) := by
  rcases content with ⟨c, member, shown⟩
  refine ⟨c, ?_, shown⟩
  rw [Text.join, String.toList_intercalate, List.map_cons]
  cases words with
  | nil => simpa using member
  | cons word words =>
    rw [List.map_cons, List.intercalate_cons_cons]
    exact List.mem_append_left _ (List.mem_append_left _ member)

theorem HasContent.ofLines (content : HasContent s) (lines : List String) :
    HasContent (Prompt.ofLines (s :: lines)) := by
  rw [Prompt.ofLines_cons]
  exact (content.append_left _).append_left _

theorem nonBlank?_of_hasContent (content : HasContent s) : nonBlank? s = some (trim s) := by
  rw [nonBlank?, if_neg (hasContent_iff.mp content)]

theorem nonBlank?_of_not_hasContent (blank : ¬HasContent s) : nonBlank? s = none := by
  rw [nonBlank?, if_pos (trim_of_not_hasContent blank)]

end Text

namespace MissingField

open Text

variable {fields : List (MissingField × String)}

theorem first?_eq_none_iff : first? fields = none ↔ ∀ entry ∈ fields, HasContent entry.2 := by
  simp [first?, hasContent_iff]

theorem first?_eq_some_iff {field : MissingField} :
    first? fields = some field ↔
      ∃ before text after, fields = before ++ (field, text) :: after ∧
        (∀ entry ∈ before, HasContent entry.2) ∧ ¬HasContent text := by
  rw [first?, Option.map_eq_some_iff]
  constructor
  · rintro ⟨⟨found, text⟩, search, rfl⟩
    rcases List.find?_eq_some_iff_append.mp search with ⟨blank, before, after, split, passed⟩
    refine ⟨before, text, after, split, ?_, ?_⟩
    · intro entry member
      rw [hasContent_iff]
      simpa using passed entry member
    · rw [hasContent_iff]
      simpa using blank
  · rintro ⟨before, text, after, split, passed, blank⟩
    refine ⟨(field, text), ?_, rfl⟩
    rw [List.find?_eq_some_iff_append]
    refine ⟨?_, before, after, split, ?_⟩
    · simpa using trim_of_not_hasContent blank
    · intro entry member
      simpa using hasContent_iff.mp (passed entry member)

end MissingField
end CodeAssistant
