import CodeAssistant.Number.Total
import CodeAssistant.Proofs.Text.SignificantLines
import CodeAssistant.Text.Lower
import CodeAssistant.Text.Search

namespace CodeAssistant
namespace Text

/-!
# Putting two texts together

Of two texts put together, the last line of the first and the first line of the second become one
line.  What is counted line by line may change there, but it does not become less if it is
*superadditive*: if a text always counts for at least as much as two pieces it is cut into
(`IsSuperadditive.total_significantChars_append`).

Occurrences of a word are superadditive.  The search in the whole text may find an occurrence across
the seam, and that one may hide the first occurrence behind the seam, but not two of them
(`occurrencesFrom_between`).

The lower case of the whole text is that of its pieces, except that another form of sigma may be
chosen next to the seam (`lowerChars_append`).  To a word without a sigma that makes no difference.
-/

/-- A text counts for at least as much as two pieces it is cut into. -/
def IsSuperadditive (measure : List Char → Nat) : Prop :=
  ∀ first second : List Char, measure first + measure second ≤ measure (first ++ second)

theorem isSuperadditive_total {words : List String} {count : String → List Char → Nat}
    (each : ∀ word ∈ words, IsSuperadditive (count word)) :
    IsSuperadditive fun text => total (words.map fun word => count word text) := by
  intro first second
  induction words with
  | nil => exact Nat.le_refl 0
  | cons word words ih =>
    rw [List.forall_mem_cons] at each
    have head := each.1 first second
    have tail := ih each.2
    simp only [List.map_cons, total_cons] at tail ⊢
    omega

/-! ## Occurrences -/

/-- To begin the search a little later loses one occurrence at most. -/
theorem occurrencesFrom_between (word text : List Char) {used later : Nat} (order : used ≤ later)
    (short : later ≤ used + word.length) :
    occurrencesFrom word later text ≤ occurrencesFrom word used text ∧
      occurrencesFrom word used text ≤ 1 + occurrencesFrom word later text := by
  induction text generalizing used later with
  | nil => exact ⟨Nat.le_refl 0, Nat.zero_le _⟩
  | cons c text ih =>
    cases later with
    | zero =>
      rw [Nat.le_zero.mp order]
      omega
    | succ later =>
      cases used with
      | succ used => exact ih (by omega) (by omega)
      | zero =>
        rw [occurrencesFrom, occurrencesFrom]
        split
        · have after := ih (show later ≤ word.length - 1 by omega)
            (show word.length - 1 ≤ later + word.length by omega)
          omega
        · exact ih (by omega) (by omega)

theorem occurrencesFrom_of_short {word text : List Char} (short : text.length < word.length)
    (used : Nat) : occurrencesFrom word used text = 0 := by
  induction text generalizing used with
  | nil => rfl
  | cons c text ih =>
    have shorter : text.length < word.length := Nat.lt_of_succ_lt short
    have absent : ¬word.isPrefixOf (c :: text) = true := by
      rw [List.isPrefixOf_iff_prefix]
      intro stands
      exact absurd stands.length_le (Nat.not_le_of_lt short)
    cases used with
    | succ used => exact ih shorter used
    | zero => rw [occurrencesFrom, if_neg absent, ih shorter]

/-- Characters that are used up are not looked at. -/
theorem occurrencesFrom_append_of_le (word : List Char) {used : Nat} {first : List Char}
    (second : List Char) (covered : first.length ≤ used) :
    occurrencesFrom word used (first ++ second) =
      occurrencesFrom word (used - first.length) second := by
  induction first generalizing used with
  | nil => rfl
  | cons c first ih =>
    cases used with
    | zero => exact absurd covered (Nat.not_succ_le_zero _)
    | succ used =>
      rw [List.cons_append, occurrencesFrom, ih (Nat.le_of_succ_le_succ covered), List.length_cons,
        Nat.add_sub_add_right]

/-- An occurrence that ends behind the seam is one more, with none after it before the seam, and it
hides one occurrence behind the seam at most. -/
theorem occurrences_le_across {word first : List Char} (second : List Char)
    (long : first.length + 1 < word.length) :
    occurrencesFrom word 0 first + occurrences word second ≤
      1 + occurrencesFrom word (word.length - 1) (first ++ second) := by
  have hidden := occurrencesFrom_between word second
    (show 0 ≤ word.length - 1 - first.length by omega)
    (show word.length - 1 - first.length ≤ 0 + word.length by omega)
  rw [occurrencesFrom_of_short (by omega), occurrencesFrom_append_of_le word second (by omega),
    Nat.zero_add]
  exact hidden.2

/-- The induction follows the search through the first piece, where the search in the whole finds
the same occurrences until one of them ends in the second piece. -/
theorem occurrencesFrom_append_le (word : List Char) {used : Nat} {first : List Char}
    (second : List Char) (inside : used ≤ first.length) :
    occurrencesFrom word used first + occurrences word second ≤
      occurrencesFrom word used (first ++ second) := by
  induction first generalizing used with
  | nil =>
    have free : used = 0 := Nat.le_zero.mp inside
    subst free
    exact Nat.le_of_eq (Nat.zero_add (occurrences word second))
  | cons c first ih =>
    have continued : c :: first <+: c :: (first ++ second) :=
      List.prefix_append (c :: first) second
    cases used with
    | succ used => exact ih (Nat.le_of_succ_le_succ inside)
    | zero =>
      rw [List.cons_append, occurrencesFrom, occurrencesFrom]
      simp only [List.isPrefixOf_iff_prefix]
      by_cases stands : word <+: c :: first
      · have fits : word.length ≤ first.length + 1 := stands.length_le
        rw [if_pos stands, if_pos (stands.trans continued), Nat.add_assoc]
        exact Nat.add_le_add_left (ih (by omega)) 1
      · rw [if_neg stands]
        by_cases across : word <+: c :: (first ++ second)
        · have long : first.length + 1 < word.length := Nat.lt_of_not_le fun fits =>
            stands (List.prefix_of_prefix_length_le across continued fits)
          rw [if_pos across]
          exact occurrences_le_across second long
        · rw [if_neg across]
          exact ih (Nat.zero_le _)

theorem isSuperadditive_occurrences (word : List Char) : IsSuperadditive (occurrences word) :=
  fun _ second => occurrencesFrom_append_le word second (Nat.zero_le _)

/-! ## Lower case -/

/-- The character, with the ordinary form of sigma for the final one. -/
def plainSigma (c : Char) : Char :=
  if c = 'ς' then 'σ' else c

/-- The neighbours of a character matter to the form of a sigma only. -/
theorem map_plainSigma_lowerBetween (before : List Char) (c : Char) (after : List Char) :
    (lowerBetween before c after).map plainSigma = (lowerBetween [] c []).map plainSigma := by
  unfold lowerBetween
  by_cases sigma : c = 'Σ'
  · rw [if_pos sigma, if_pos sigma]
    split <;> rfl
  · rw [if_neg sigma, if_neg sigma]

theorem map_plainSigma_lowerAfter (before cs : List Char) :
    (lowerAfter before cs).map plainSigma =
      cs.flatMap fun c => (lowerBetween [] c []).map plainSigma := by
  induction cs generalizing before with
  | nil => rfl
  | cons c cs ih =>
    rw [lowerAfter, List.map_append, map_plainSigma_lowerBetween, ih, List.flatMap_cons]

/-- Up to the form of a sigma, the two pieces are put into lower case separately. -/
theorem lowerChars_append (first second : List Char) :
    (lowerChars (first ++ second)).map plainSigma =
      (lowerChars first).map plainSigma ++ (lowerChars second).map plainSigma := by
  simp only [lowerChars, map_plainSigma_lowerAfter, List.flatMap_append]

theorem plainSigma_eq_iff {c d : Char} (plain : d ≠ 'σ' ∧ d ≠ 'ς') : plainSigma c = d ↔ c = d := by
  unfold plainSigma
  split
  · next final =>
    rw [final]
    exact ⟨fun same => absurd same.symm plain.1, fun same => absurd same.symm plain.2⟩
  · rfl

theorem isPrefixOf_map_plainSigma {word : List Char} (plain : ∀ d ∈ word, d ≠ 'σ' ∧ d ≠ 'ς')
    (text : List Char) : word.isPrefixOf (text.map plainSigma) = word.isPrefixOf text := by
  induction word generalizing text with
  | nil => simp
  | cons d word ih =>
    rw [List.forall_mem_cons] at plain
    cases text with
    | nil => rfl
    | cons c text =>
      have same : (d == plainSigma c) = (d == c) := by
        rw [Bool.eq_iff_iff, beq_iff_eq, beq_iff_eq, eq_comm, plainSigma_eq_iff plain.1, eq_comm]
      rw [List.map_cons, List.isPrefixOf_cons_cons, List.isPrefixOf_cons_cons, same, ih plain.2]

theorem occurrencesFrom_map_plainSigma {word : List Char} (plain : ∀ d ∈ word, d ≠ 'σ' ∧ d ≠ 'ς')
    (used : Nat) (text : List Char) :
    occurrencesFrom word used (text.map plainSigma) = occurrencesFrom word used text := by
  induction text generalizing used with
  | nil => rfl
  | cons c text ih =>
    have stands := isPrefixOf_map_plainSigma plain (c :: text)
    rw [List.map_cons] at stands ⊢
    cases used with
    | succ used => exact ih used
    | zero => rw [occurrencesFrom, occurrencesFrom, stands, ih, ih]

/-- Occurrences in the lower case of a text, of a word without a sigma. -/
theorem isSuperadditive_occurrences_lowerChars {word : List Char}
    (plain : ∀ d ∈ word, d ≠ 'σ' ∧ d ≠ 'ς') :
    IsSuperadditive fun text => occurrences word (lowerChars text) := by
  intro first second
  have counted := isSuperadditive_occurrences word ((lowerChars first).map plainSigma)
    ((lowerChars second).map plainSigma)
  rw [← lowerChars_append] at counted
  simpa only [occurrences, occurrencesFrom_map_plainSigma plain] using counted

/-! ## Lines -/

theorem trimStart_append_of_shown {first : List Char} (shown : trimStart first ≠ [])
    (second : List Char) : trimStart (first ++ second) = trimStart first ++ second := by
  have step : trimStart (first ++ second) =
      if (trimStart first).isEmpty then trimStart second else trimStart first ++ second :=
    List.dropWhile_append
  rw [step, if_neg (by simpa using shown)]

theorem trimEnd_append_of_shown {second : List Char} (shown : trimEnd second ≠ [])
    (first : List Char) : trimEnd (first ++ second) = first ++ trimEnd second := by
  have reversed : trimStart second.reverse ≠ [] := by simpa [trimEnd] using shown
  rw [trimEnd, List.reverse_append, trimStart_append_of_shown reversed, List.reverse_append,
    List.reverse_reverse, ← trimEnd]

/-- Both trimmed pieces are in the trimmed whole. -/
theorem exists_trimChars_append (first second : List Char) :
    ∃ between : List Char,
      trimChars (first ++ second) = trimChars first ++ between ++ trimChars second := by
  by_cases blank : ∀ c ∈ first, isBlank c = true
  · refine ⟨[], ?_⟩
    rw [trimChars_blank_append blank, trimChars_eq_nil_iff.mpr blank, List.nil_append,
      List.nil_append]
  · by_cases blank' : ∀ c ∈ second, isBlank c = true
    · refine ⟨[], ?_⟩
      rw [trimChars_append_blank blank', trimChars_eq_nil_iff.mpr blank', List.append_nil,
        List.append_nil]
    · have shown : trimStart first ≠ [] := fun none => blank (trimStart_eq_nil_iff.mp none)
      have shown' : trimEnd second ≠ [] := fun none => blank' (trimEnd_eq_nil_iff.mp none)
      obtain ⟨after, -, start⟩ := exists_blanks_trimEnd (trimStart first)
      obtain ⟨before, -, finish⟩ := exists_blanks_trimStart (trimEnd second)
      refine ⟨after ++ before, ?_⟩
      calc
        trimChars (first ++ second) = trimStart first ++ trimEnd second := by
          rw [trimChars, trimStart_append_of_shown shown, trimEnd_append_of_shown shown']
        _ = trimEnd (trimStart first) ++ after ++ (before ++ trimStart (trimEnd second)) := by
          rw [← start, ← finish]
        _ = trimChars first ++ (after ++ before) ++ trimChars second := by
          rw [trimStart_trimEnd, ← trimChars, ← trimChars, List.append_assoc, List.append_assoc,
            List.append_assoc]

namespace IsSuperadditive

variable {measure : List Char → Nat} (superadditive : IsSuperadditive measure)
include superadditive

theorem measure_nil : measure [] = 0 := by
  have twice := superadditive [] []
  rw [List.append_nil] at twice
  omega

theorem total_lineContents (line : List Char) :
    total ((lineContents line).map measure) = measure (trimChars line) := by
  by_cases shown : trimChars line = []
  · rw [lineContents_of_blank (trimChars_eq_nil_iff.mp shown), shown, superadditive.measure_nil,
      List.map_nil, total_nil]
  · rw [lineContents_of_shown shown, List.map_singleton, total_cons, total_nil, Nat.add_zero]

/-- A line that is cut in two. -/
theorem total_lineContents_append (first second : List Char) :
    total ((lineContents first).map measure) + total ((lineContents second).map measure) ≤
      total ((lineContents (first ++ second)).map measure) := by
  obtain ⟨between, whole⟩ := exists_trimChars_append first second
  rw [superadditive.total_lineContents, superadditive.total_lineContents,
    superadditive.total_lineContents, whole]
  calc
    measure (trimChars first) + measure (trimChars second) ≤
        measure (trimChars first ++ between) + measure (trimChars second) := by
      have longer := superadditive (trimChars first) between
      omega
    _ ≤ measure (trimChars first ++ between ++ trimChars second) := superadditive _ _

/-- The line before the seam, which is given backwards, is put in front of the first line behind
it. -/
theorem total_significantFrom_before (before line cs : List Char) :
    total ((lineContents before.reverse).map measure) +
        total ((significantFrom line cs).map measure) ≤
      total ((significantFrom (line ++ before) cs).map measure) := by
  induction cs generalizing line with
  | nil =>
    rw [significantFrom_nil, significantFrom_nil, List.reverse_append]
    exact superadditive.total_lineContents_append _ _
  | cons c cs ih =>
    cases other : isLineBreak c with
    | true =>
      have cut := superadditive.total_lineContents_append before.reverse line.reverse
      rw [significantFrom_of_break other, significantFrom_of_break other, List.reverse_append,
        List.map_append, List.map_append, total_append, total_append, ← Nat.add_assoc]
      exact Nat.add_le_add_right cut _
    | false =>
      rw [significantFrom_of_not_break other, significantFrom_of_not_break other,
        ← List.cons_append]
      exact ih (c :: line)

/-- The induction is on the text before the seam, of which `line` has already been read. -/
theorem total_significantFrom_append (line first second : List Char) :
    total ((significantFrom line first).map measure) +
        total ((significantChars second).map measure) ≤
      total ((significantFrom line (first ++ second)).map measure) := by
  induction first generalizing line with
  | nil =>
    rw [significantFrom_nil, List.nil_append, ← significantFrom_empty]
    exact superadditive.total_significantFrom_before line [] second
  | cons c first ih =>
    cases other : isLineBreak c with
    | true =>
      have rest := ih []
      rw [List.cons_append, significantFrom_of_break other, significantFrom_of_break other,
        List.map_append, List.map_append, total_append, total_append, Nat.add_assoc]
      exact Nat.add_le_add_left rest _
    | false =>
      rw [List.cons_append, significantFrom_of_not_break other,
        significantFrom_of_not_break other]
      exact ih (c :: line)

/-- The lines of a text count for at least as much as those of the two pieces it is cut into. -/
theorem total_significantChars_append (first second : List Char) :
    total ((significantChars first).map measure) + total ((significantChars second).map measure) ≤
      total ((significantChars (first ++ second)).map measure) :=
  superadditive.total_significantFrom_append [] first second

end IsSuperadditive

end Text
end CodeAssistant
