import CodeAssistant.Proofs.Generation.Padding
import CodeAssistant.Proofs.Text.Pieces
import CodeAssistant.Service.Config

namespace CodeAssistant

/-!
# Lists of origins

A list in a setting is cut at its commas, and its entries are the trimmed pieces, without those that
are blank.  Cutting it at one comma first makes no difference, so no entry is merged with another
one or lost, whatever stands around the commas.  In this sense reading is inverse to joining: a
setting gives some entries exactly when it is joined from them (`listSetting_eq_iff`).
-/

open Text

/-- An entry of a list, as it is compared with the origin of a request. -/
structure IsListEntry (entry : String) : Prop where
  filled : entry ≠ ""
  trimmed : trim entry = entry
  whole : ',' ∉ entry.toList

/-- `Lists entries pieces`: the pieces are the entries in their order, with blanks around them, and
further pieces that are blank. -/
inductive Lists : List String → List String → Prop
  | nil : Lists [] []
  | blank {piece : String} {entries pieces : List String} (blank : ¬HasContent piece)
      (rest : Lists entries pieces) : Lists entries (piece :: pieces)
  | entry {entry piece : String} {entries pieces : List String} (pads : Pads entry piece)
      (rest : Lists entries pieces) : Lists (entry :: entries) (piece :: pieces)

variable {setting piece entry : String} {entries pieces : List String}

theorem listSetting_eq (setting : String) :
    listSetting setting = (cut ',' setting).filterMap nonBlank? := by
  rw [listSetting, cut, List.filterMap_map]
  congr 1
  funext piece
  by_cases blank : trimChars piece = [] <;> simp [nonBlank?, trim, blank]

/-- Cutting a list at one of its commas first makes no difference. -/
theorem listSetting_append (first second : String) :
    listSetting (first ++ "," ++ second) = listSetting first ++ listSetting second := by
  have comma : "," = String.singleton ',' := rfl
  rw [listSetting_eq, comma, cut_append, List.filterMap_append, ← listSetting_eq, ← listSetting_eq]

theorem isListEntry_of_mem (member : entry ∈ listSetting setting) : IsListEntry entry := by
  rw [listSetting_eq, List.mem_filterMap] at member
  obtain ⟨piece, cutOut, found⟩ := member
  by_cases content : HasContent piece
  · rw [nonBlank?_of_hasContent content, Option.some.injEq] at found
    rw [← found]
    refine ⟨hasContent_iff.mp content, trim_trim piece, ?_⟩
    intro comma
    rw [toList_trim] at comma
    exact lacks_of_mem_cut cutOut (mem_of_mem_trimChars comma)
  · rw [nonBlank?_of_not_hasContent content] at found
    cases found

/-- A piece is what is left of it with blanks around it. -/
theorem pads_trim (piece : String) : Pads (trim piece) piece := by
  obtain ⟨before, after, blankBefore, blankAfter, whole⟩ := exists_blanks_trimChars piece.toList
  refine ⟨before, after, blankBefore, blankAfter, ?_⟩
  rw [toList_trim]
  exact whole

/-- Any pieces are the entries that are found in them and blanks. -/
theorem lists_filterMap (pieces : List String) : Lists (pieces.filterMap nonBlank?) pieces := by
  induction pieces with
  | nil => exact .nil
  | cons piece pieces ih =>
    by_cases content : HasContent piece
    · rw [List.filterMap_cons_some (nonBlank?_of_hasContent content)]
      exact .entry (pads_trim piece) ih
    · rw [List.filterMap_cons_none (nonBlank?_of_not_hasContent content)]
      exact .blank content ih

theorem IsListEntry.nonBlank? (proper : IsListEntry entry) (pads : Pads entry piece) :
    Text.nonBlank? piece = some entry := by
  have content : HasContent piece := by
    rw [pads.hasContent_iff, hasContent_iff, proper.trimmed]
    exact proper.filled
  rw [nonBlank?_of_hasContent content, pads.trim_eq, proper.trimmed]

/-- Entries are found again in their pieces. -/
theorem Lists.filterMap_eq (lists : Lists entries pieces)
    (proper : ∀ entry ∈ entries, IsListEntry entry) : pieces.filterMap Text.nonBlank? = entries := by
  induction lists with
  | nil => rfl
  | blank blank _ ih =>
    rw [List.filterMap_cons_none (nonBlank?_of_not_hasContent blank), ih proper]
  | entry pads _ ih =>
    obtain ⟨first, others⟩ := List.forall_mem_cons.mp proper
    rw [List.filterMap_cons_some (first.nonBlank? pads), ih others]

theorem lacks_comma_of_blank (blank : ¬HasContent piece) : ',' ∉ piece.toList := fun member =>
  blank ⟨',', member, by decide⟩

theorem IsListEntry.lacks_comma (proper : IsListEntry entry) (pads : Pads entry piece) :
    ',' ∉ piece.toList := by
  obtain ⟨before, after, blankBefore, blankAfter, whole⟩ := pads
  rw [whole, List.mem_append, List.mem_append]
  rintro ((comma | comma) | comma)
  · exact absurd (blankBefore _ comma) (by decide)
  · exact proper.whole comma
  · exact absurd (blankAfter _ comma) (by decide)

theorem Lists.lacks_comma (lists : Lists entries pieces)
    (proper : ∀ entry ∈ entries, IsListEntry entry) : ∀ piece ∈ pieces, ',' ∉ piece.toList := by
  induction lists with
  | nil => exact fun _ member => absurd member List.not_mem_nil
  | blank blank _ ih => exact List.forall_mem_cons.mpr ⟨lacks_comma_of_blank blank, ih proper⟩
  | entry pads _ ih =>
    obtain ⟨first, others⟩ := List.forall_mem_cons.mp proper
    exact List.forall_mem_cons.mpr ⟨first.lacks_comma pads, ih others⟩

/-- Entries are found again in a list that is joined from their pieces. -/
theorem Lists.listSetting_join (lists : Lists entries pieces)
    (proper : ∀ entry ∈ entries, IsListEntry entry) :
    listSetting (join "," pieces) = entries := by
  cases some_pieces : pieces with
  | nil =>
    subst some_pieces
    cases lists
    rfl
  | cons first others =>
    have comma : "," = String.singleton ',' := rfl
    rw [← some_pieces, listSetting_eq, comma,
      cut_join (lists.lacks_comma proper) (by simp [some_pieces]), lists.filterMap_eq proper]

/-- Settings of lists can be cut at any comma.  A setting gives some entries exactly when they are
trimmed, not empty and without commas, and it is joined with commas from these entries in their
order, each with any blanks around it, and from any further blank pieces. -/
theorem listSetting_eq_iff :
    (∀ first second : String,
      listSetting (first ++ "," ++ second) = listSetting first ++ listSetting second) ∧
    ∀ (setting : String) (entries : List String),
      listSetting setting = entries ↔
        (∀ entry ∈ entries, IsListEntry entry) ∧
          ∃ pieces, Lists entries pieces ∧ setting = join "," pieces := by
  refine ⟨listSetting_append, fun setting entries => ⟨?_, ?_⟩⟩
  · rintro rfl
    have lists := lists_filterMap (cut ',' setting)
    rw [← listSetting_eq] at lists
    exact ⟨fun _ => isListEntry_of_mem, cut ',' setting, lists, (join_cut ',' setting).symm⟩
  · rintro ⟨proper, pieces, lists, rfl⟩
    exact lists.listSetting_join proper

example : listSetting " http://a , ,http://b," = ["http://a", "http://b"] := by decide

end CodeAssistant
