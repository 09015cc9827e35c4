import CodeAssistant.Generation.CodeStub
import CodeAssistant.Proofs.Text.Lines

namespace CodeAssistant

/-!
# What a code stub leaves uncommented

A code stub is put together from commented lines, into which the name of the language and the lines of
the request go as they are.  A line break that comes with them starts a line without a comment mark,
unless the text after it happens to bring one.  So a stub is all comments exactly when no such text
goes on uncommented (`isCommented_fallbackCode_iff`).
-/

open Text

/-- Every line of the text that is not empty starts with the mark. -/
def IsCommented (mark text : String) : Prop :=
  ∀ line ∈ splitLines text.toList, line ≠ [] → mark.toList <+: line

/-- Every line of the text that is not empty, apart from the first line, starts with the mark. -/
def StaysCommented (mark text : String) : Prop :=
  ∀ line ∈ (splitLines text.toList).tail, line ≠ [] → mark.toList <+: line

instance (mark text : String) : Decidable (IsCommented mark text) :=
  decidable_of_iff ((splitLines text.toList).all
      (fun line => line.isEmpty || mark.toList.isPrefixOf line) = true)
    (by simp [IsCommented, Classical.or_iff_not_imp_left])

variable {mark text : String}

/-! ## Lines of a stub -/

/-- The line as a list of lines, without it if it is empty. -/
def shownLine (line : List Char) : List (List Char) :=
  if line = [] then [] else [line]

theorem isCommented_iff :
    IsCommented mark text ↔
      ∀ line ∈ (splitLines text.toList).flatMap shownLine, mark.toList <+: line := by
  constructor
  · intro commented line member
    obtain ⟨found, member, shown⟩ := List.mem_flatMap.mp member
    rw [shownLine] at shown
    split at shown
    · cases shown
    · rename_i content
      rw [List.mem_singleton.mp shown]
      exact commented found member content
  · intro commented line member content
    refine commented line (List.mem_flatMap.mpr ⟨line, member, ?_⟩)
    rw [shownLine, if_neg content]
    exact List.mem_singleton_self line

theorem isCommented_append_feed (first second : String) :
    IsCommented mark (first ++ "\n" ++ second) ↔ IsCommented mark first ∧ IsCommented mark second := by
  have split : (first ++ "\n" ++ second).toList = first.toList ++ '\n' :: second.toList := by
    simp
  rw [isCommented_iff, isCommented_iff, isCommented_iff, split, splitLines,
    flatMap_linesFrom_append_break rfl rfl, List.forall_mem_append]
  rfl

theorem isCommented_ofLines (lines : List String) :
    IsCommented mark (Prompt.ofLines lines) ↔ ∀ line ∈ lines, IsCommented mark line := by
  induction lines with
  | nil =>
    constructor
    · intro _ line member
      cases member
    · intro _ line member
      cases member
  | cons line lines ih =>
    rw [Prompt.ofLines_cons, isCommented_append_feed, ih, List.forall_mem_cons]

/-- Text behind the beginning of a comment can only leave the comment on its further lines. -/
theorem isCommented_append {start : String} (begun : start ≠ "")
    (unbroken : ∀ c ∈ start.toList, isLineBreak c = false)
    (marked : mark.toList <+: start.toList) (text : String) :
    IsCommented mark (start ++ text) ↔ StaysCommented mark text := by
  have content : start.toList.reverse ++ [] ≠ [] := by simpa using begun
  obtain ⟨more, lines⟩ := exists_linesFrom_eq_cons content text.toList
  rw [List.append_nil, List.reverse_reverse] at lines
  rw [IsCommented, String.toList_append, splitLines, linesFrom_of_unbroken unbroken,
    List.append_nil, lines, List.forall_mem_cons]
  exact and_iff_right fun _ => marked.trans (List.prefix_append _ _)

/-- Text without breaks has no further lines. -/
theorem StaysCommented.of_unbroken (unbroken : ∀ c ∈ text.toList, isLineBreak c = false) :
    StaysCommented mark text := by
  intro line member
  rw [splitLines, ← List.append_nil text.toList, linesFrom_of_unbroken unbroken, tail_linesFrom]
    at member
  cases member

/-! ## The comment marks -/

theorem commentMark_mem (language : String) : commentMark language ∈ ["#", "--", "//"] := by
  rw [commentMark]
  split <;> decide

theorem unbroken_commentMark (language : String) :
    ∀ c ∈ (commentMark language).toList, isLineBreak c = false := by
  have checked : ["#", "--", "//"].all
      (fun mark => mark.toList.all (fun c => !isLineBreak c)) = true := by decide
  exact unbroken_of_all (List.all_eq_true.mp checked _ (commentMark_mem language))

/-- A line of a stub begins with the mark and a label. -/
theorem isCommented_labelled (language : String) {label : String}
    (unbroken : ∀ c ∈ label.toList, isLineBreak c = false) (labelled : label ≠ "") (text : String) :
    IsCommented (commentMark language) (commentMark language ++ label ++ text) ↔
      StaysCommented (commentMark language) text := by
  apply isCommented_append
  · intro empty
    exact labelled (String.append_eq_empty_iff.mp empty).2
  · rw [String.toList_append, List.forall_mem_append]
    exact ⟨unbroken_commentMark language, unbroken⟩
  · rw [String.toList_append]
    exact List.prefix_append _ _

/-! ## The whole stub -/

/-- The three kinds of lines that a stub is made of. -/
theorem isCommented_fallbackCode (language query : String) :
    IsCommented (commentMark language) (fallbackCode language query) ↔
      StaysCommented (commentMark language) (language ++ " skeleton") ∧
        ∀ line ∈ newlineLines (trim query), StaysCommented (commentMark language) (trim line) := by
  have title : IsCommented (commentMark language)
        (commentMark language ++ " Generated " ++ language ++ " skeleton") ↔
      StaysCommented (commentMark language) (language ++ " skeleton") := by
    rw [@String.append_assoc (commentMark language ++ " Generated ")]
    exact isCommented_labelled language (unbroken_of_all (by decide)) (by decide) _
  have requests (line : String) : IsCommented (commentMark language)
        (commentMark language ++ " Request: " ++ trim line) ↔
      StaysCommented (commentMark language) (trim line) :=
    isCommented_labelled language (unbroken_of_all (by decide)) (by decide) _
  have task : IsCommented (commentMark language)
      (commentMark language ++ " TODO: Implement the requested functionality") := by
    rw [← @String.append_empty (_ ++ _)]
    exact (isCommented_labelled language (unbroken_of_all (by decide)) (by decide) "").mpr
      (.of_unbroken (by simp))
  rw [fallbackCode, isCommented_ofLines, List.forall_mem_append, List.forall_mem_append,
    List.forall_mem_singleton, List.forall_mem_singleton, List.forall_mem_map, title]
  simp only [requests, task, and_true]

/-- A stub is all comments exactly when neither the name of the language nor a line of the request
goes on behind a break without the comment mark; in particular when neither has a break other than
those at which the request is cut. -/
theorem isCommented_fallbackCode_iff (language query : String) :
    (IsCommented (commentMark language) (fallbackCode language query) ↔
        StaysCommented (commentMark language) (language ++ " skeleton") ∧
          ∀ line ∈ newlineLines (trim query), StaysCommented (commentMark language) (trim line)) ∧
      ((∀ c ∈ language.toList, isLineBreak c = false) →
        (∀ line ∈ newlineLines (trim query), ∀ c ∈ (trim line).toList, isLineBreak c = false) →
          IsCommented (commentMark language) (fallbackCode language query)) := by
  refine ⟨isCommented_fallbackCode language query, fun name request => ?_⟩
  refine (isCommented_fallbackCode language query).mpr ⟨?_, fun line member => ?_⟩
  · apply StaysCommented.of_unbroken
    rw [String.toList_append, List.forall_mem_append]
    exact ⟨name, unbroken_of_all (by decide)⟩
  · exact .of_unbroken (request line member)

theorem isCommented_fallbackCode_two_requests :
    IsCommented (commentMark "python") (fallbackCode "python" " add\r\ntwo\tnumbers\n") := by
  have requests : (newlineLines (trim " add\r\ntwo\tnumbers\n")).all
      (fun line => (trim line).toList.all (fun c => !isLineBreak c)) = true := by decide +kernel
  refine (isCommented_fallbackCode_iff "python" " add\r\ntwo\tnumbers\n").2 ?_ ?_
  · exact unbroken_of_all (by decide)
  · intro line member
    exact unbroken_of_all (List.all_eq_true.mp requests line member)

/-- A carriage return in a request, or a line separator in the name of a language, is followed by a
line of the stub that is no comment. -/
theorem fallbackCode_uncommented :
    ¬IsCommented (commentMark "python") (fallbackCode "python" "add two numbers\rimport os") ∧
      ¬IsCommented (commentMark "rust\u2028use std::fs;")
        (fallbackCode "rust\u2028use std::fs;" "add two numbers") := by
  decide +kernel

end CodeAssistant
