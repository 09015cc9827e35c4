import CodeAssistant.Proofs.Text.LineRanges
import CodeAssistant.Text.Search

namespace CodeAssistant
namespace Text

/-!
# Lines and what ends them

Cutting a text into lines loses nothing but the line ends, and these are known up to their kind: each
is a carriage return with its line feed or a single break, and a line feed is never left behind alone
when a carriage return stands before it (`Terminates`).  One line is there for each of these ends,
and one more when the text goes on behind the last of them (`length_linesFrom_add`).
-/

/-! ## Texts put together from lines -/

/-- The lines, each followed by its mark.  The lines for which there are no marks left follow each
other directly. -/
def interleave : List String → List String → String
  | [], _ => ""
  | line :: lines, [] => line ++ interleave lines []
  | line :: lines, mark :: marks => line ++ (mark ++ interleave lines marks)

/-- A carriage return with its line feed, or any break by itself. -/
def IsTerminator (mark : String) : Prop :=
  mark = "\r\n" ∨ ∃ c, isLineBreak c = true ∧ mark = String.singleton c

/-- `Terminates marks lines text`: the text consists of the lines and of the marks that end them. -/
structure Terminates (marks lines : List String) (text : String) : Prop where
  whole : interleave lines marks = text
  terminators : ∀ mark ∈ marks, IsTerminator mark
  /-- Only a last line that is not empty may go without a mark. -/
  complete : marks.length = lines.length ∨
    marks.length + 1 = lines.length ∧ lines.getLast? ≠ some ""
  /-- A carriage return and the line feed behind it are one mark. -/
  paired : ∀ i, marks[i]? = some "\r" →
    (interleave (lines.drop (i + 1)) (marks.drop (i + 1))).toList.head? ≠ some '\n'

namespace Terminates

theorem nil : Terminates [] [] "" where
  whole := rfl
  terminators := fun _ member => by cases member
  complete := Or.inl rfl
  paired := fun _ absent => by cases absent

theorem last {line : String} (shown : line ≠ "") : Terminates [] [line] line where
  whole := String.append_empty
  terminators := fun _ member => by cases member
  complete := Or.inr ⟨rfl, by simpa using shown⟩
  paired := fun _ absent => by cases absent

theorem cons {mark text : String} {marks lines : List String} (line : String)
    (terminator : IsTerminator mark) (apart : mark = "\r" → text.toList.head? ≠ some '\n')
    (rest : Terminates marks lines text) :
    Terminates (mark :: marks) (line :: lines) (line ++ (mark ++ text)) where
  whole := by rw [interleave, rest.whole]
  terminators := List.forall_mem_cons.mpr ⟨terminator, rest.terminators⟩
  complete := by
    rcases rest.complete with all | ⟨fewer, shown⟩
    · exact Or.inl (congrArg Nat.succ all)
    · refine Or.inr ⟨congrArg Nat.succ fewer, ?_⟩
      cases lines with
      | nil => cases fewer
      | cons next lines => rwa [List.getLast?_cons_cons]
  paired := by
    intro i carriage
    cases i with
    | zero =>
      rw [List.getElem?_cons_zero, Option.some.injEq] at carriage
      rw [List.drop_succ_cons, List.drop_succ_cons, List.drop_zero, List.drop_zero, rest.whole]
      exact apart carriage
    | succ i =>
      rw [List.getElem?_cons_succ] at carriage
      rw [List.drop_succ_cons, List.drop_succ_cons]
      exact rest.paired i carriage

end Terminates

/-! ## The lines of a text -/

variable {line cs : List Char}

theorem exists_terminates_linesFrom (line cs : List Char) :
    ∃ marks, Terminates marks ((linesFrom line cs).map String.ofList)
      (String.ofList (line.reverse ++ cs)) := by
  fun_induction linesFrom line cs with
  | case1 line empty =>
    rw [List.isEmpty_iff.mp empty]
    exact ⟨[], .nil⟩
  | case2 line shown =>
    refine ⟨[], ?_⟩
    rw [List.append_nil]
    exact .last (by simpa using shown)
  | case3 line rest ih =>
    obtain ⟨marks, terminates⟩ := ih
    have whole : String.ofList (line.reverse ++ '\r' :: '\n' :: rest) =
        String.ofList line.reverse ++ ("\r\n" ++ String.ofList ([].reverse ++ rest)) := by
      simp [← String.toList_inj]
    rw [whole]
    exact ⟨"\r\n" :: marks, .cons _ (Or.inl rfl) (fun single => absurd single (by decide)) terminates⟩
  | case4 line c rest apart ends ih =>
    obtain ⟨marks, terminates⟩ := ih
    have whole : String.ofList (line.reverse ++ c :: rest) =
        String.ofList line.reverse ++
          (String.singleton c ++ String.ofList ([].reverse ++ rest)) := by
      simp
    have alone : String.singleton c = "\r" →
        (String.ofList ([].reverse ++ rest)).toList.head? ≠ some '\n' := by
      intro carriage feed
      rw [String.toList_ofList, List.reverse_nil, List.nil_append, List.head?_eq_some_iff] at feed
      obtain ⟨tail, split⟩ := feed
      exact apart tail (by simpa [← String.toList_inj] using carriage) split
    rw [whole]
    exact ⟨String.singleton c :: marks, .cons _ (Or.inr ⟨c, ends, rfl⟩) alone terminates⟩
  | case5 line c rest apart other ih =>
    rw [List.reverse_cons, List.append_assoc, List.singleton_append] at ih
    exact ih

/-! ## How many lines there are -/

/-- Whether the text has a last character and this is not a break. -/
def endsOpen (cs : List Char) : Bool :=
  cs.getLast?.any (fun c => !isLineBreak c)

theorem endsOpen_append_break {c : Char} (ends : isLineBreak c = true) (before rest : List Char) :
    endsOpen (before ++ c :: rest) = endsOpen rest := by
  cases rest with
  | nil => simp [endsOpen, ends]
  | cons d rest =>
    rw [endsOpen, endsOpen, List.getLast?_append, List.getLast?_cons_cons, List.getLast?_cons,
      Option.some_or]

theorem occurrences_pair_of_apart {c : Char} {rest : List Char}
    (apart : ∀ tail, c = '\r' → rest = '\n' :: tail → False) :
    occurrences ['\r', '\n'] (c :: rest) = occurrences ['\r', '\n'] rest := by
  have elsewhere : ¬(['\r', '\n'].isPrefixOf (c :: rest) = true) := by
    rw [List.isPrefixOf_iff_prefix, List.cons_prefix_cons]
    rintro ⟨carriage, tail, feed⟩
    exact apart tail carriage.symm feed.symm
  rw [occurrences, occurrencesFrom, if_neg elsewhere, occurrences]

/-- A carriage return with its line feed is counted as two breaks and as one occurrence. -/
theorem length_linesFrom_add (unbroken : ∀ c ∈ line, isLineBreak c = false) :
    (linesFrom line cs).length + occurrences ['\r', '\n'] cs =
      cs.countP isLineBreak + if endsOpen (line.reverse ++ cs) then 1 else 0 := by
  fun_induction linesFrom line cs with
  | case1 line empty =>
    rw [List.isEmpty_iff.mp empty]
    rfl
  | case2 line shown =>
    cases line with
    | nil => exact absurd rfl shown
    | cons c line =>
      have goes : endsOpen ((c :: line).reverse ++ []) = true := by
        simp [endsOpen, unbroken c List.mem_cons_self]
      rw [goes]
      rfl
  | case3 line rest ih =>
    have opened : endsOpen (line.reverse ++ '\r' :: '\n' :: rest) = endsOpen rest := by
      rw [endsOpen_append_break rfl, ← List.nil_append ('\n' :: rest), endsOpen_append_break rfl]
    have found : occurrences ['\r', '\n'] ('\r' :: '\n' :: rest) =
        1 + occurrences ['\r', '\n'] rest := rfl
    have later := ih (by simp)
    rw [List.reverse_nil, List.nil_append] at later
    rw [opened, found, List.length_cons, List.countP_cons_of_pos rfl, List.countP_cons_of_pos rfl]
    omega
  | case4 line c rest apart ends ih =>
    have later := ih (by simp)
    rw [List.reverse_nil, List.nil_append] at later
    rw [endsOpen_append_break ends, occurrences_pair_of_apart apart, List.length_cons,
      List.countP_cons_of_pos ends]
    omega
  | case5 line c rest apart other ih =>
    have inside := Bool.eq_false_iff.mpr other
    have later := ih (List.forall_mem_cons.mpr ⟨inside, unbroken⟩)
    rw [List.reverse_cons, List.append_assoc, List.singleton_append] at later
    rw [occurrences_pair_of_apart apart, List.countP_cons_of_neg other, later]

/-- A source text is cut into lines without a panic and without a loss.  Each range that is cut out
lies between characters of the text and holds the line at its place; no line has a break in it; the
lines and the terminators behind them make up the text; and the number of lines is that of the
breaks, with a carriage return and its line feed counted once, and one more if the text goes on
behind the last break. -/
theorem sourceLines_lossless (s : String) :
    (∀ range ∈ lineRanges s, range.FitsIn s) ∧
      (lineRanges s).map (ByteRange.cut? s) = (sourceLines s).map some ∧
      (∀ line ∈ sourceLines s, ∀ c ∈ line.toList, isLineBreak c = false) ∧
      (∃ marks, Terminates marks (sourceLines s) s) ∧
      (sourceLines s).length + occurrences ['\r', '\n'] s.toList =
        s.toList.countP isLineBreak + if endsOpen s.toList then 1 else 0 := by
  refine ⟨fun _ => fitsIn_of_mem_lineRanges, map_cut?_lineRanges s, ?_, ?_, ?_⟩
  · intro line member
    obtain ⟨found, member, same⟩ := List.mem_map.mp member
    rw [← same, String.toList_ofList]
    exact unbroken_of_mem_linesFrom (by simp) member
  · obtain ⟨marks, terminates⟩ := exists_terminates_linesFrom [] s.toList
    rw [List.reverse_nil, List.nil_append, String.ofList_toList] at terminates
    exact ⟨marks, terminates⟩
  · rw [sourceLines, List.length_map]
    exact length_linesFrom_add (by simp)

end Text
end CodeAssistant
