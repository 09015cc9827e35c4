import CodeAssistant.Proofs.Text.SignificantLines

namespace CodeAssistant
namespace Text

/-!
# Arrangements of significant lines

`Arranges` describes a text from the outside: the lines in their order, with padding and empty lines
around them and a break between any two.  A text has the given significant lines exactly when it
arranges them (`arranges_iff`).  Hence nothing of the form of a text but this can be told from its
significant lines, and any text may be put into another form without changing them.
-/

/-- A line as the scanner returns it. -/
structure IsSignificant (line : List Char) : Prop where
  shown : line ≠ []
  trimmed : trimChars line = line
  unbroken : ∀ c ∈ line, isLineBreak c = false

/-- `Arranges lines text`: the text consists of the lines, in order, and of what stands before,
after and between them. -/
inductive Arranges : List (List Char) → List Char → Prop
  | last {line before after : List Char} (gapsBefore : ∀ c ∈ before, isGap c = true)
      (gapsAfter : ∀ c ∈ after, isGap c = true) :
      Arranges [line] (before ++ line ++ after)
  | more {line before between text : List Char} {lines : List (List Char)}
      (gapsBefore : ∀ c ∈ before, isGap c = true) (separator : IsSeparator between)
      (rest : Arranges lines text) :
      Arranges (line :: lines) (before ++ line ++ between ++ text)

/-! ## Every line of a text is significant -/

theorem isSignificant_of_mem_lineContents {line found : List Char}
    (unbroken : ∀ c ∈ line, isLineBreak c = false) (member : found ∈ lineContents line) :
    IsSignificant found := by
  have parts := List.mem_filter.mp member
  have same : found = trimChars line := List.mem_singleton.mp parts.1
  subst same
  exact {
    shown := by simpa using parts.2
    trimmed := trimChars_trimChars line
    unbroken := fun c inside => unbroken c (mem_of_mem_trimChars inside) }

theorem isSignificant_of_mem_significantFrom {cs found : List Char} (line : List Char)
    (unbroken : ∀ c ∈ line, isLineBreak c = false) (member : found ∈ significantFrom line cs) :
    IsSignificant found := by
  induction cs generalizing line with
  | nil =>
    rw [significantFrom_nil] at member
    exact isSignificant_of_mem_lineContents (by simpa using unbroken) member
  | cons c cs ih =>
    cases other : isLineBreak c with
    | true =>
      rw [significantFrom_of_break other, List.mem_append] at member
      rcases member with closed | later
      · exact isSignificant_of_mem_lineContents (by simpa using unbroken) closed
      · exact ih [] (fun _ inside => by cases inside) later
    | false =>
      rw [significantFrom_of_not_break other] at member
      exact ih (c :: line) (List.forall_mem_cons.mpr ⟨other, unbroken⟩) member

theorem isSignificant_of_mem {cs line : List Char} (member : line ∈ significantChars cs) :
    IsSignificant line :=
  isSignificant_of_mem_significantFrom [] (fun _ inside => by cases inside) member

/-- Only a text of blanks and breaks has no significant line. -/
theorem significantFrom_eq_nil_iff {line cs : List Char} :
    significantFrom line cs = [] ↔
      (∀ c ∈ line, isBlank c = true) ∧ ∀ c ∈ cs, isGap c = true := by
  induction cs generalizing line with
  | nil => simp [significantFrom_nil, lineContents_eq_nil_iff]
  | cons c cs ih =>
    cases other : isLineBreak c with
    | true =>
      have rest : significantChars cs = [] ↔ ∀ d ∈ cs, isGap d = true := by
        rw [← significantFrom_empty, ih]
        simp
      have gap : isGap c = true := isGap_of_isLineBreak other
      rw [significantFrom_of_break other, List.append_eq_nil_iff, lineContents_eq_nil_iff, rest]
      simp [gap]
    | false =>
      have gap : isGap c = isBlank c := by rw [isGap, other, Bool.or_false]
      rw [significantFrom_of_not_break other, ih, List.forall_mem_cons, List.forall_mem_cons, gap]
      exact ⟨fun h => ⟨h.1.2, h.1.1, h.2⟩, fun h => ⟨⟨h.2.1, h.1⟩, h.2.2⟩⟩

theorem significantChars_eq_nil_iff {cs : List Char} :
    significantChars cs = [] ↔ ∀ c ∈ cs, isGap c = true := by
  rw [← significantFrom_empty, significantFrom_eq_nil_iff]
  simp

/-! ## Arranging and scanning are inverse to each other -/

theorem IsSignificant.significantChars {line : List Char} (significant : IsSignificant line) :
    Text.significantChars line = [line] := by
  have shown : trimChars line ≠ [] := by
    rw [significant.trimmed]
    exact significant.shown
  calc
    Text.significantChars line = lineContents line :=
      significantFrom_of_unbroken significant.unbroken []
    _ = [trimChars line] := lineContents_of_shown shown
    _ = [line] := by rw [significant.trimmed]

/-- Scanning reads the arranged lines. -/
theorem significantChars_of_arranges {lines : List (List Char)} {text : List Char}
    (significant : ∀ line ∈ lines, IsSignificant line) (arranged : Arranges lines text) :
    significantChars text = lines := by
  induction arranged with
  | last gapsBefore gapsAfter =>
    rw [significantChars_append_gap gapsAfter, significantChars_gap_append gapsBefore]
    exact (significant _ (List.mem_singleton_self _)).significantChars
  | more gapsBefore separator _ ih =>
    have parts := List.forall_mem_cons.mp significant
    rw [significantChars_append_separator separator, significantChars_gap_append gapsBefore,
      parts.1.significantChars, ih parts.2, List.singleton_append]

theorem Arranges.gap_append {lines : List (List Char)} {text gap : List Char}
    (gaps : ∀ c ∈ gap, isGap c = true) (arranged : Arranges lines text) :
    Arranges lines (gap ++ text) := by
  cases arranged with
  | last gapsBefore gapsAfter =>
    have both := List.forall_mem_append.mpr ⟨gaps, gapsBefore⟩
    simpa only [List.append_assoc] using Arranges.last both gapsAfter
  | more gapsBefore separator rest =>
    have both := List.forall_mem_append.mpr ⟨gaps, gapsBefore⟩
    simpa only [List.append_assoc] using Arranges.more both separator rest

theorem Arranges.last_line {line gap : List Char} (shown : trimChars line ≠ [])
    (gaps : ∀ c ∈ gap, isGap c = true) : Arranges (lineContents line) (line ++ gap) := by
  obtain ⟨before, after, blankBefore, blankAfter, whole⟩ := exists_blanks_trimChars line
  have gapsAfter : ∀ c ∈ after ++ gap, isGap c = true :=
    List.forall_mem_append.mpr ⟨gaps_of_blanks blankAfter, gaps⟩
  have arranged : Arranges [trimChars line] (before ++ trimChars line ++ (after ++ gap)) :=
    .last (gaps_of_blanks blankBefore) gapsAfter
  rw [← List.append_assoc, ← whole] at arranged
  rw [lineContents_of_shown shown]
  exact arranged

theorem Arranges.line_append {lines : List (List Char)} {text : List Char} {c : Char}
    (ends : isLineBreak c = true) (arranged : Arranges lines text) (line : List Char) :
    Arranges (lineContents line ++ lines) (line ++ c :: text) := by
  have closing : ∀ d ∈ [c], isGap d = true :=
    List.forall_mem_singleton.mpr (isGap_of_isLineBreak ends)
  by_cases empty : trimChars line = []
  · have blank := trimChars_eq_nil_iff.mp empty
    have gaps : ∀ d ∈ line ++ [c], isGap d = true :=
      List.forall_mem_append.mpr ⟨gaps_of_blanks blank, closing⟩
    rw [lineContents_of_blank blank, List.nil_append, List.append_cons]
    exact arranged.gap_append gaps
  · obtain ⟨before, after, blankBefore, blankAfter, whole⟩ := exists_blanks_trimChars line
    have separator : IsSeparator (after ++ [c]) := {
      gaps := List.forall_mem_append.mpr ⟨gaps_of_blanks blankAfter, closing⟩
      ends := ⟨c, List.mem_append_right _ (List.mem_singleton_self c), ends⟩ }
    have next : Arranges (trimChars line :: lines)
        (before ++ trimChars line ++ (after ++ [c]) ++ text) :=
      .more (gaps_of_blanks blankBefore) separator arranged
    rw [← List.append_assoc, ← whole, ← List.append_cons] at next
    rw [lineContents_of_shown empty, List.singleton_append]
    exact next

theorem arranges_significantFrom {cs : List Char} (line : List Char)
    (found : significantFrom line cs ≠ []) :
    Arranges (significantFrom line cs) (line.reverse ++ cs) := by
  induction cs generalizing line with
  | nil =>
    rw [significantFrom_nil] at found ⊢
    exact Arranges.last_line (shown_of_lineContents found) (fun _ member => by cases member)
  | cons c cs ih =>
    cases other : isLineBreak c with
    | true =>
      rw [significantFrom_of_break other] at found ⊢
      by_cases rest : significantChars cs = []
      · rw [rest, List.append_nil] at found ⊢
        have gaps : ∀ d ∈ c :: cs, isGap d = true :=
          List.forall_mem_cons.mpr
            ⟨isGap_of_isLineBreak other, significantChars_eq_nil_iff.mp rest⟩
        exact Arranges.last_line (shown_of_lineContents found) gaps
      · exact (ih [] rest).line_append other line.reverse
    | false =>
      rw [significantFrom_of_not_break other] at found ⊢
      have continued := ih (c :: line) found
      rw [List.reverse_cons, List.append_assoc, List.singleton_append] at continued
      exact continued

/-- A text with significant lines arranges them. -/
theorem arranges_significantChars {cs : List Char} (found : significantChars cs ≠ []) :
    Arranges (significantChars cs) cs :=
  arranges_significantFrom [] found

/-- The arrangements of some significant lines are the texts that have just these lines. -/
theorem arranges_iff {lines : List (List Char)} {text : List Char} (found : lines ≠ [])
    (significant : ∀ line ∈ lines, IsSignificant line) :
    Arranges lines text ↔ significantChars text = lines := by
  constructor
  · exact significantChars_of_arranges significant
  · intro same
    subst same
    exact arranges_significantChars found

/-- Another form of the same code: its significant lines, arranged in any way. -/
def Reformats (code text : String) : Prop :=
  Arranges (significantChars code.toList) text.toList

/-- Code is reformatted exactly by keeping its significant lines. -/
theorem reformats_iff {code text : String} (found : significantLines code ≠ []) :
    Reformats code text ↔ significantLines text = significantLines code := by
  have shown : significantChars code.toList ≠ [] := fun none =>
    found (List.map_eq_nil_iff.mpr none)
  have separate : ∀ first second : List Char,
      String.ofList first = String.ofList second → first = second := fun _ _ =>
    String.ofList_inj.mp
  rw [Reformats, arranges_iff shown (fun _ => isSignificant_of_mem), significantLines,
    significantLines, List.map_inj_right separate]

end Text
end CodeAssistant
