import CodeAssistant.Proofs.Text.Arrangement
import CodeAssistant.Quality.Report

namespace CodeAssistant
namespace QualityReport

/-!
# Which code is scored

Code is rejected when it is blank and scored otherwise, and the scores are taken from its
significant lines.  The two conditions look alike but are not complementary.  Three of the line
breaks, the file, group and record separators, are not blank: code in which nothing else is left
besides blanks and breaks is scored although it has no significant line
(`ofRequest_ok_iff_significant_or_bare`).
-/

open Text

variable {code : String} {language : Option String}

/-! ## Rejection -/

theorem first?_code (code : String) :
    MissingField.first? [(.code, code)] = if trim code = "" then some .code else none := by
  by_cases empty : trim code = "" <;> simp [MissingField.first?, empty]

/-- Blank code is rejected. -/
theorem ofRequest_of_blank (blank : ∀ c ∈ code.toList, isBlank c = true) :
    ofRequest ⟨code, language⟩ = rejected .code := by
  rw [ofRequest, first?_code, if_pos (trim_eq_empty_iff.mpr blank)]

theorem significantLines_trim (code : String) :
    significantLines (trim code) = significantLines code := by
  rw [significantLines, toList_trim, significantChars_trimChars, significantLines]

/-- Code that is not blank is scored on its own significant lines: that it is trimmed first cannot
be seen. -/
theorem ofRequest_of_not_blank (content : ¬∀ c ∈ code.toList, isBlank c = true) :
    ofRequest ⟨code, language⟩ = ofLines (significantLines code) language := by
  rw [ofRequest, first?_code, if_neg (fun empty => content (trim_eq_empty_iff.mp empty)),
    significantLines_trim]

theorem ofRequest_ok_iff :
    (ofRequest ⟨code, language⟩).ok = true ↔ ¬∀ c ∈ code.toList, isBlank c = true := by
  constructor
  · intro accepted blank
    rw [ofRequest_of_blank blank] at accepted
    cases accepted
  · intro content
    rw [ofRequest_of_not_blank content]
    rfl

/-! ## Code without significant lines -/

theorem significantLines_eq_nil_iff :
    significantLines code = [] ↔ ∀ c ∈ code.toList, isGap c = true := by
  rw [significantLines, List.map_eq_nil_iff, significantChars_eq_nil_iff]

theorem not_blank_of_significant (found : significantLines code ≠ []) :
    ¬∀ c ∈ code.toList, isBlank c = true := fun blank =>
  found (significantLines_eq_nil_iff.mpr fun c member => isGap_of_isBlank (blank c member))

/-- Code with a significant line is scored. -/
theorem ofRequest_of_significant (found : significantLines code ≠ []) :
    ofRequest ⟨code, language⟩ = ofLines (significantLines code) language :=
  ofRequest_of_not_blank (not_blank_of_significant found)

/-- The line breaks that are not blank: the file, group and record separators. -/
def isBareBreak (c : Char) : Bool :=
  c == '\x1c' || c == '\x1d' || c == '\x1e'

theorem isBareBreak_iff {c : Char} :
    isBareBreak c = true ↔ isLineBreak c = true ∧ isBlank c = false := by
  have same (d : Char) : c = d ↔ c.toNat = d.toNat := Char.toNat_inj.symm
  have file : '\x1c'.toNat = 0x1C := rfl
  have group : '\x1d'.toNat = 0x1D := rfl
  have record : '\x1e'.toNat = 0x1E := rfl
  simp only [isBareBreak, isLineBreak, isBlank, Bool.or_eq_true, Bool.and_eq_true,
    Bool.or_eq_false_iff, Bool.and_eq_false_iff, beq_iff_eq, beq_eq_false_iff_ne,
    decide_eq_true_eq, decide_eq_false_iff_not, same]
  omega

/-- The code consists of blanks and breaks, and some of the breaks are not blank. -/
def IsBare (code : String) : Prop :=
  (∀ c ∈ code.toList, isGap c = true) ∧ ∃ c ∈ code.toList, isBareBreak c = true

theorem isBare_iff :
    IsBare code ↔ significantLines code = [] ∧ ¬∀ c ∈ code.toList, isBlank c = true := by
  rw [IsBare, significantLines_eq_nil_iff]
  refine and_congr_right fun gaps => ?_
  constructor
  · rintro ⟨c, member, bare⟩ blank
    have shown := (isBareBreak_iff.mp bare).2
    rw [blank c member] at shown
    cases shown
  · intro content
    rw [Classical.not_forall] at content
    obtain ⟨c, content⟩ := content
    rw [Classical.not_imp] at content
    have shown : isBlank c = false := Bool.eq_false_iff.mpr content.2
    refine ⟨c, content.1, isBareBreak_iff.mpr ⟨?_, shown⟩⟩
    have gap := gaps c content.1
    rwa [isGap, shown, Bool.false_or] at gap

/-! ## The number of lines in a report -/

/-- The sentence on the size of the code, in a report that has one. -/
def sizeExplanation? (report : QualityReport) : Option String :=
  (report.metrics.find? fun metric => metric.name == "Lines of Code").map
    MetricResult.explanation

/-- The report says that the code has this many significant lines. -/
def CountsLines (count : Nat) (report : QualityReport) : Prop :=
  ∃ advice : String, sizeExplanation? report =
    some ("Code spans " ++ decimal count ++ " significant lines. " ++ advice)

theorem countsLines_ofLines (lines : List String) (language : Option String) :
    CountsLines lines.length (ofLines lines language) := by
  have sentence : sizeExplanation? (ofLines lines language) =
      some (Metric.explanation lines .size) := by
    simp only [sizeExplanation?, ofLines, Metric.all, Metric.evaluate, MetricResult.graded,
      Metric.title, List.map_cons, List.map_nil, List.find?_cons]
    rfl
  exact ⟨_, sentence⟩

/-- A report is made exactly for code with a significant line, which it then counts, and for code
that is bare.  A bare text is not rejected although there is nothing to score in it. -/
theorem ofRequest_ok_iff_significant_or_bare (request : QualityRequest) :
    ((ofRequest request).ok = true ↔
        significantLines request.code ≠ [] ∨ IsBare request.code) ∧
      (significantLines request.code ≠ [] →
        ¬IsBare request.code ∧ 1 ≤ (significantLines request.code).length ∧
          CountsLines (significantLines request.code).length (ofRequest request)) ∧
      (IsBare request.code →
        significantLines request.code = [] ∧ CountsLines 0 (ofRequest request)) ∧
      (significantLines request.code = [] → ¬IsBare request.code →
        ofRequest request = ⟨false, 0, .f, [], ["Error: Code cannot be empty"]⟩) := by
  obtain ⟨code, language⟩ := request
  refine ⟨?_, ?_, ?_, ?_⟩
  · rw [ofRequest_ok_iff, isBare_iff]
    constructor
    · intro content
      by_cases found : significantLines code = []
      · exact Or.inr ⟨found, content⟩
      · exact Or.inl found
    · rintro (found | bare)
      · exact not_blank_of_significant found
      · exact bare.2
  · intro found
    refine ⟨fun bare => found (isBare_iff.mp bare).1, List.length_pos_iff.mpr found, ?_⟩
    rw [ofRequest_of_significant found]
    exact countsLines_ofLines _ _
  · intro bare
    have parts := isBare_iff.mp bare
    refine ⟨parts.1, ?_⟩
    rw [ofRequest_of_not_blank parts.2, parts.1]
    exact countsLines_ofLines [] language
  · intro none bare
    have blank : ∀ c ∈ code.toList, isBlank c = true :=
      Classical.byContradiction fun content => bare (isBare_iff.mpr ⟨none, content⟩)
    rw [ofRequest_of_blank blank]
    rfl

/-- A lone file separator is scored as code of no lines. -/
theorem ofRequest_file_separator :
    (ofRequest ⟨"\x1c", none⟩).ok = true ∧ significantLines "\x1c" = [] := by
  decide +kernel

end QualityReport
end CodeAssistant
