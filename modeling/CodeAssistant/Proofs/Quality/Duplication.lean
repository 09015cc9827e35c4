import CodeAssistant.Quality.Metric
import Mathlib.Data.Finset.Card
import Mathlib.Data.Finset.Dedup
import Mathlib.Data.List.Induction

namespace CodeAssistant
namespace Metric

/-!
# Counting copies

The copies among some lines are found in one pass that remembers the lines already seen.  Which of
several equal lines counts as the copy depends on their order, but the number of copies does not: a
line that is not a copy is the first of its kind, so copies and kinds together are as many as the
lines (`copiesAfter_add_card`).

The pass can also be run line by line, with the lines seen and the copies found as its state.  After
any number of lines the state is determined by these lines (`CopyRecord.Covers`), and at the end its
count is the number of copies (`copies_of_pass`).
-/

/-- The lines that are seen for the first time are the kinds that have not been seen before. -/
theorem copiesAfter_add_card (seen lines : List String) :
    copiesAfter seen lines + (lines.toFinset \ seen.toFinset).card = lines.length := by
  induction lines generalizing seen with
  | nil => simp [copiesAfter]
  | cons line lines ih =>
    rw [copiesAfter, List.toFinset_cons, List.length_cons]
    by_cases known : line ∈ seen
    · have same : insert line lines.toFinset \ seen.toFinset =
          lines.toFinset \ seen.toFinset :=
        Finset.insert_sdiff_of_mem _ (List.mem_toFinset.mpr known)
      have rest := ih seen
      rw [if_pos (List.contains_iff_mem.mpr known), same]
      omega
    · have apart : insert line lines.toFinset \ seen.toFinset =
          insert line (lines.toFinset \ (line :: seen).toFinset) := by
        ext kind
        by_cases same : kind = line
        · subst same
          simp [known]
        · simp [same]
      have new : line ∉ lines.toFinset \ (line :: seen).toFinset := by simp
      have rest := ih (line :: seen)
      rw [if_neg (fun contained => known (List.contains_iff_mem.mp contained)), apart,
        Finset.card_insert_of_notMem new]
      omega

/-- The lines that can be copies, in lower case. -/
def longLines (lines : List String) : List String :=
  (lines.filter isLong).map Text.lower

/-- A long line is either the first of its kind or a copy. -/
theorem copies_add_card (lines : List String) :
    copies lines + (longLines lines).toFinset.card = (longLines lines).length := by
  have counted := copiesAfter_add_card [] (longLines lines)
  rwa [List.toFinset_nil, Finset.sdiff_empty] at counted

/-- The number of copies does not depend on the order of the lines. -/
theorem copies_perm {first second : List String} (rearranged : first.Perm second) :
    copies first = copies second := by
  have long : (longLines first).Perm (longLines second) := (rearranged.filter isLong).map Text.lower
  have firstCount := copies_add_card first
  have secondCount := copies_add_card second
  rw [List.toFinset_eq_of_perm _ _ long, long.length_eq] at firstCount
  omega

/-! ## Line by line -/

/-- What has been recorded of some lines: the long ones in lower case, and how many of those had been
seen before. -/
structure CopyRecord where
  seen : Finset String
  copies : Nat

namespace CopyRecord

/-- The record of no lines. -/
def blank : CopyRecord := ⟨∅, 0⟩

/-- The record with one more line. -/
def note (record : CopyRecord) (line : String) : CopyRecord :=
  if isLong line then
    if Text.lower line ∈ record.seen then ⟨record.seen, record.copies + 1⟩
    else ⟨insert (Text.lower line) record.seen, record.copies⟩
  else record

/-- The record of some lines. -/
def ofLines (lines : List String) : CopyRecord :=
  lines.foldl note blank

/-- The record is right about the lines that have been passed. -/
structure Covers (record : CopyRecord) (passed : List String) : Prop where
  seen : record.seen = (longLines passed).toFinset
  counted : record.copies + record.seen.card = (longLines passed).length

theorem longLines_concat (passed : List String) (line : String) :
    longLines (passed ++ [line]) =
      if isLong line then longLines passed ++ [Text.lower line] else longLines passed := by
  rw [longLines, List.filter_append, List.map_append, ← longLines]
  split
  · next long => rw [List.filter_cons_of_pos long, List.filter_nil, List.map_singleton]
  · next short =>
    rw [List.filter_cons_of_neg short, List.filter_nil, List.map_nil, List.append_nil]

theorem covers_blank : blank.Covers [] where
  seen := rfl
  counted := rfl

/-- A long line adds to the copies if its form is known and to the forms if it is not, so either way
one line more is accounted for. -/
theorem Covers.note {record : CopyRecord} {passed : List String} (covers : record.Covers passed)
    (line : String) : (record.note line).Covers (passed ++ [line]) := by
  have counted := covers.counted
  have recorded : insert (Text.lower line) record.seen =
      (longLines passed ++ [Text.lower line]).toFinset := by
    rw [covers.seen, List.toFinset_append, List.toFinset_cons, List.toFinset_nil, Finset.union_comm,
      Finset.insert_union, Finset.empty_union]
  unfold CopyRecord.note
  by_cases long : isLong line = true
  · by_cases known : Text.lower line ∈ record.seen
    · rw [if_pos long, if_pos known]
      constructor
      · rw [longLines_concat, if_pos long, ← recorded, Finset.insert_eq_of_mem known]
      · rw [longLines_concat, if_pos long, List.length_append, List.length_singleton, ← counted]
        exact Nat.add_right_comm record.copies 1 record.seen.card
    · rw [if_pos long, if_neg known]
      constructor
      · rw [longLines_concat, if_pos long, recorded]
      · rw [longLines_concat, if_pos long, List.length_append, List.length_singleton, ← counted,
          Finset.card_insert_of_notMem known]
        exact (Nat.add_assoc record.copies record.seen.card 1).symm
  · rw [if_neg long]
    constructor
    · rw [longLines_concat, if_neg long, covers.seen]
    · rw [longLines_concat, if_neg long, counted]

theorem covers_ofLines (lines : List String) : (ofLines lines).Covers lines := by
  -- The record speaks of the lines behind it, so they are taken off at the end.
  induction lines using List.reverseRecOn with
  | nil => exact covers_blank
  | append_singleton passed line ih =>
    rw [ofLines, List.foldl_append, List.foldl_cons, List.foldl_nil]
    exact ih.note line

/-- The count of the record is the number of copies. -/
theorem copies_ofLines (lines : List String) : (ofLines lines).copies = Metric.copies lines := by
  have covers := covers_ofLines lines
  have recorded := covers.counted
  have counted := copies_add_card lines
  rw [covers.seen] at recorded
  omega

end CopyRecord

theorem length_longLines_le (lines : List String) : (longLines lines).length ≤ lines.length := by
  rw [longLines, List.length_map]
  exact List.length_filter_le _ _

/-- No line is a copy exactly if the long lines are all of different kinds. -/
theorem copies_eq_zero_iff (lines : List String) :
    copies lines = 0 ↔ (longLines lines).Nodup := by
  have counted := copies_add_card lines
  constructor
  · intro none
    rw [← List.dedup_eq_self]
    apply (List.dedup_sublist _).eq_of_length
    rw [← List.card_toFinset]
    omega
  · intro distinct
    rw [List.toFinset_card_of_nodup distinct] at counted
    omega

/-- The first line is not a copy. -/
theorem copies_lt_length {lines : List String} (filled : lines ≠ []) :
    copies lines < lines.length := by
  have positive := List.length_pos_iff.mpr filled
  have counted := copies_add_card lines
  have bounded := length_longLines_le lines
  rcases Nat.eq_zero_or_pos (longLines lines).length with none | long
  · omega
  · have kinds : 0 < (longLines lines).toFinset.card := by
      rw [Finset.card_pos, List.toFinset_nonempty_iff]
      exact List.length_pos_iff.mp long
    omega

/-- A pass over the lines with a set of the forms seen and a counter finds the copies.  They are as
many as the lines of more than three characters, less the different forms that these have in lower
case, so one line at least is not a copy.  The report says how many there are. -/
theorem copies_of_pass (lines : List String) :
    let long := lines.filter fun line => 3 < line.toList.length
    let forms := (long.map Text.lower).toFinset
    let record := lines.foldl CopyRecord.note ⟨∅, 0⟩
    record.copies = copies lines ∧ record.seen = forms ∧
      copies lines + forms.card = long.length ∧
      (lines ≠ [] → copies lines ≤ lines.length - 1) ∧
      (copies lines = 0 ↔ (long.map Text.lower).Nodup) ∧
      (Metric.duplication.evaluate lines).explanation =
        if (long.map Text.lower).Nodup then "Minimal duplication detected."
        else "Detected " ++ decimal (long.length - forms.card) ++
          " duplicated lines. Consolidate shared logic." := by
  intro long forms record
  have covers : record.Covers lines := CopyRecord.covers_ofLines lines
  have counted : copies lines + forms.card = long.length := by
    have kinds := copies_add_card lines
    rwa [longLines, List.length_map] at kinds
  have distinct : copies lines = 0 ↔ (long.map Text.lower).Nodup := copies_eq_zero_iff lines
  refine ⟨CopyRecord.copies_ofLines lines, covers.seen, counted, ?_, distinct, ?_⟩
  · intro filled
    exact Nat.le_sub_one_of_lt (copies_lt_length filled)
  · have number : long.length - forms.card = copies lines := by omega
    rw [number]
    by_cases none : copies lines = 0
    · rw [if_pos (distinct.mp none)]
      exact if_pos none
    · rw [if_neg (mt distinct.mpr none)]
      exact if_neg none

/-- Of the three long lines two are the same in lower case.  The other two are a character too
short. -/
theorem copies_of_pass_call :
    let lines := ["Call()", "end", "call()", "end", "x = 1"]
    lines ≠ [] ∧ copies lines = 1 ∧ copies lines ≤ lines.length - 1 :=
  ⟨by decide, by decide, (copies_of_pass _).2.2.2.1 (by decide)⟩

end Metric
end CodeAssistant
