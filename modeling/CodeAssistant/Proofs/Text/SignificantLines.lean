import CodeAssistant.Proofs.Text.Lines

namespace CodeAssistant
namespace Text

/-!
# Significant lines and the text between them

Everything about the significant lines of a text follows from one equation: they can be read off the
two sides of any line break separately (`significantChars_append_break`).  It does not matter that
a carriage return and the line feed after it are one break for `splitLines`: taken as two, they
enclose an empty line, and that is dropped.

Two kinds of characters stand between significant lines, blanks and line breaks, and neither kind
includes the other.  Such characters are not seen at either end of a text, and they separate what is
on their two sides as soon as there is a break among them (`significantChars_append_separator`).
-/

/-! ## Gathering the lines with contents -/

/-- What one line contributes: its trimmed form, unless nothing is left of it. -/
def lineContents (line : List Char) : List (List Char) :=
  [trimChars line].filter (fun line => !line.isEmpty)

/-- The significant lines of a text that continues `line`, which is given backwards. -/
def significantFrom (line cs : List Char) : List (List Char) :=
  ((linesFrom line cs).map trimChars).filter (fun line => !line.isEmpty)

@[simp]
theorem significantFrom_empty (cs : List Char) : significantFrom [] cs = significantChars cs := rfl

theorem lineContents_of_blank {line : List Char} (blank : ∀ c ∈ line, isBlank c = true) :
    lineContents line = [] := by
  simp [lineContents, trimChars_eq_nil_iff.mpr blank]

theorem lineContents_of_shown {line : List Char} (shown : trimChars line ≠ []) :
    lineContents line = [trimChars line] := by
  simp [lineContents, shown]

theorem shown_of_lineContents {line : List Char} (found : lineContents line ≠ []) :
    trimChars line ≠ [] := by
  intro empty
  exact found (lineContents_of_blank (trimChars_eq_nil_iff.mp empty))

theorem lineContents_eq_nil_iff {line : List Char} :
    lineContents line = [] ↔ ∀ c ∈ line, isBlank c = true := by
  constructor
  · intro none
    by_cases empty : trimChars line = []
    · exact trimChars_eq_nil_iff.mp empty
    · rw [lineContents_of_shown empty] at none
      cases none
  · exact lineContents_of_blank

theorem lineContents_blank_append {line before : List Char}
    (blank : ∀ c ∈ before, isBlank c = true) :
    lineContents (before ++ line) = lineContents line := by
  rw [lineContents, trimChars_blank_append blank, lineContents]

theorem lineContents_append_blank {line after : List Char}
    (blank : ∀ c ∈ after, isBlank c = true) :
    lineContents (line ++ after) = lineContents line := by
  rw [lineContents, trimChars_append_blank blank, lineContents]

/-- Significant lines are gathered from the lines, an empty line contributing nothing. -/
theorem significantFrom_eq_flatMap (line cs : List Char) :
    significantFrom line cs = (linesFrom line cs).flatMap lineContents := by
  rw [significantFrom]
  generalize linesFrom line cs = lines
  induction lines with
  | nil => rfl
  | cons first lines ih =>
    rw [List.map_cons, ← List.singleton_append, List.filter_append, ih, List.flatMap_cons]
    rfl

theorem significantFrom_nil (line : List Char) :
    significantFrom line [] = lineContents line.reverse := by
  rw [significantFrom_eq_flatMap, flatMap_linesFrom_nil rfl]

theorem significantFrom_of_not_break {c : Char} (other : isLineBreak c = false)
    (line rest : List Char) :
    significantFrom line (c :: rest) = significantFrom (c :: line) rest := by
  rw [significantFrom, linesFrom_of_not_break other, significantFrom]

/-- A break closes the line before it. -/
theorem significantFrom_of_break {c : Char} (ends : isLineBreak c = true) (line rest : List Char) :
    significantFrom line (c :: rest) = lineContents line.reverse ++ significantChars rest := by
  rw [significantFrom_eq_flatMap, flatMap_linesFrom_of_break rfl ends, ← significantFrom_empty,
    significantFrom_eq_flatMap]
  rfl

/-! ## The equation at a break -/

theorem significantFrom_append_break {c : Char} (ends : isLineBreak c = true)
    (line first second : List Char) :
    significantFrom line (first ++ c :: second) =
      significantFrom line first ++ significantChars second := by
  rw [significantFrom_eq_flatMap, flatMap_linesFrom_append_break rfl ends,
    ← significantFrom_eq_flatMap, ← significantFrom_empty, significantFrom_eq_flatMap [] second]
  rfl

/-- The significant lines on the two sides of a break do not influence each other. -/
theorem significantChars_append_break {c : Char} (ends : isLineBreak c = true)
    (first second : List Char) :
    significantChars (first ++ c :: second) = significantChars first ++ significantChars second :=
  significantFrom_append_break ends [] first second

theorem significantFrom_of_unbroken {cs : List Char}
    (unbroken : ∀ c ∈ cs, isLineBreak c = false) (line : List Char) :
    significantFrom line cs = lineContents (line.reverse ++ cs) := by
  induction cs generalizing line with
  | nil => rw [significantFrom_nil, List.append_nil]
  | cons c cs ih =>
    have parts := List.forall_mem_cons.mp unbroken
    rw [significantFrom_of_not_break parts.1, ih parts.2, List.reverse_cons, List.append_assoc,
      List.singleton_append]

/-! ## Characters between the lines -/

/-- Whether the character can stand between significant lines. -/
def isGap (c : Char) : Bool :=
  isBlank c || isLineBreak c

theorem isGap_of_isBlank {c : Char} (blank : isBlank c = true) : isGap c = true := by
  rw [isGap, blank, Bool.true_or]

theorem gaps_of_blanks {cs : List Char} (blank : ∀ c ∈ cs, isBlank c = true) :
    ∀ c ∈ cs, isGap c = true := fun c member => isGap_of_isBlank (blank c member)

theorem isGap_of_isLineBreak {c : Char} (ends : isLineBreak c = true) : isGap c = true := by
  rw [isGap, ends, Bool.or_true]

theorem isBlank_of_isGap {c : Char} (gap : isGap c = true) (other : isLineBreak c = false) :
    isBlank c = true := by
  rw [isGap, other, Bool.or_false] at gap
  exact gap

/-- Characters between lines only close the line before them. -/
theorem significantFrom_of_gap {gap : List Char} (gaps : ∀ c ∈ gap, isGap c = true)
    (line : List Char) : significantFrom line gap = lineContents line.reverse := by
  induction gap generalizing line with
  | nil => exact significantFrom_nil line
  | cons c gap ih =>
    have parts := List.forall_mem_cons.mp gaps
    cases other : isLineBreak c with
    | true =>
      have rest : significantChars gap = [] := ih parts.2 []
      rw [significantFrom_of_break other, rest, List.append_nil]
    | false =>
      have blank : ∀ x ∈ [c], isBlank x = true := by
        simpa using isBlank_of_isGap parts.1 other
      rw [significantFrom_of_not_break other, ih parts.2, List.reverse_cons,
        lineContents_append_blank blank]

/-- Characters between lines are not seen behind a text, be they padding of its last line or
further empty lines. -/
theorem significantFrom_append_gap {gap : List Char} (gaps : ∀ c ∈ gap, isGap c = true)
    (line cs : List Char) : significantFrom line (cs ++ gap) = significantFrom line cs := by
  induction cs generalizing line with
  | nil => rw [List.nil_append, significantFrom_of_gap gaps, significantFrom_nil]
  | cons d cs ih =>
    cases other : isLineBreak d with
    | true =>
      have rest : significantChars (cs ++ gap) = significantChars cs := ih []
      rw [List.cons_append, significantFrom_of_break other, significantFrom_of_break other, rest]
    | false =>
      rw [List.cons_append, significantFrom_of_not_break other,
        significantFrom_of_not_break other, ih]

theorem significantChars_append_gap {gap : List Char} (gaps : ∀ c ∈ gap, isGap c = true)
    (cs : List Char) : significantChars (cs ++ gap) = significantChars cs :=
  significantFrom_append_gap gaps [] cs

/-- Blanks that open a line are padding; a line is kept backwards, so they stand at its end. -/
theorem significantFrom_padded {padding : List Char} (blank : ∀ c ∈ padding, isBlank c = true)
    (line cs : List Char) : significantFrom (line ++ padding) cs = significantFrom line cs := by
  have padded (line : List Char) :
      lineContents (line ++ padding).reverse = lineContents line.reverse := by
    have reversed : ∀ c ∈ padding.reverse, isBlank c = true := by simpa using blank
    rw [List.reverse_append, lineContents_blank_append reversed]
  induction cs generalizing line with
  | nil => rw [significantFrom_nil, significantFrom_nil, padded]
  | cons d cs ih =>
    cases other : isLineBreak d with
    | true => rw [significantFrom_of_break other, significantFrom_of_break other, padded]
    | false =>
      rw [significantFrom_of_not_break other, significantFrom_of_not_break other,
        ← List.cons_append, ih]

theorem significantChars_gap_append {gap : List Char} (gaps : ∀ c ∈ gap, isGap c = true)
    (cs : List Char) : significantChars (gap ++ cs) = significantChars cs := by
  induction gap with
  | nil => rfl
  | cons c gap ih =>
    have parts := List.forall_mem_cons.mp gaps
    rw [List.cons_append, ← ih parts.2]
    cases other : isLineBreak c with
    | true => exact significantChars_append_break other [] (gap ++ cs)
    | false =>
      have blank : ∀ x ∈ [c], isBlank x = true := by
        simpa using isBlank_of_isGap parts.1 other
      calc
        significantChars (c :: (gap ++ cs)) = significantFrom [c] (gap ++ cs) :=
          significantFrom_of_not_break other [] (gap ++ cs)
        _ = significantChars (gap ++ cs) := significantFrom_padded blank [] (gap ++ cs)

/-- What keeps two significant lines apart: any padding and any empty lines, as long as there is a
break. -/
structure IsSeparator (gap : List Char) : Prop where
  gaps : ∀ c ∈ gap, isGap c = true
  ends : ∃ c ∈ gap, isLineBreak c = true

/-- The significant lines on the two sides of a separator do not influence each other. -/
theorem significantChars_append_separator {gap : List Char} (separator : IsSeparator gap)
    (first second : List Char) :
    significantChars (first ++ gap ++ second) =
      significantChars first ++ significantChars second := by
  obtain ⟨c, member, ends⟩ := separator.ends
  obtain ⟨before, after, split⟩ := List.append_of_mem member
  have gaps := separator.gaps
  rw [split, List.forall_mem_append, List.forall_mem_cons] at gaps
  calc
    significantChars (first ++ gap ++ second) =
        significantChars ((first ++ before) ++ c :: (after ++ second)) := by
      rw [split, List.append_assoc, List.append_assoc, List.append_assoc, List.cons_append]
    _ = significantChars (first ++ before) ++ significantChars (after ++ second) :=
      significantChars_append_break ends _ _
    _ = significantChars first ++ significantChars second := by
      rw [significantChars_append_gap gaps.1, significantChars_gap_append gaps.2.2]

/-- Trimming the whole text first makes no difference to its significant lines. -/
theorem significantChars_trimChars (cs : List Char) :
    significantChars (trimChars cs) = significantChars cs := by
  obtain ⟨before, after, blankBefore, blankAfter, whole⟩ := exists_blanks_trimChars cs
  calc
    significantChars (trimChars cs) = significantChars (before ++ trimChars cs ++ after) := by
      rw [significantChars_append_gap (gaps_of_blanks blankAfter),
        significantChars_gap_append (gaps_of_blanks blankBefore)]
    _ = significantChars cs := by rw [← whole]

end Text
end CodeAssistant
