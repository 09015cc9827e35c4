import CodeAssistant.Proofs.Text.Arrangement
import CodeAssistant.Proofs.Text.Terminators

namespace CodeAssistant
namespace Text

/-!
# Significant lines taken apart and joined again

Breaks between two texts keep their significant lines apart, however the breaks pair up with what
stands next to them: a carriage return at the end of the first text may take a line feed of the
breaks with it, or one of the breaks a line feed at the start of the second.  The significant lines
of a text are a form of it that scanning does not change, whatever breaks join them again.
-/

/-- One or more line breaks. -/
def IsBreakRun (s : String) : Prop :=
  s ≠ "" ∧ ∀ c ∈ s.toList, isLineBreak c = true

instance (s : String) : Decidable (IsBreakRun s) :=
  decidable_of_iff (s ≠ "" ∧ s.toList.all isLineBreak = true) (by simp [IsBreakRun])

variable {separator text : String} {lines separators : List String}

theorem IsBreakRun.isSeparator (breaks : IsBreakRun separator) : IsSeparator separator.toList where
  gaps := fun c member => isGap_of_isLineBreak (breaks.2 c member)
  ends := by
    have shown : separator.toList ≠ [] := fun empty => breaks.1 (String.toList_eq_nil_iff.mp empty)
    obtain ⟨c, member⟩ := List.exists_mem_of_ne_nil _ shown
    exact ⟨c, member, breaks.2 c member⟩

theorem significantLines_append_breaks (breaks : IsBreakRun separator) (first second : String) :
    significantLines (first ++ separator ++ second) =
      significantLines first ++ significantLines second := by
  rw [significantLines, String.toList_append, String.toList_append,
    significantChars_append_separator breaks.isSeparator, List.map_append]
  rfl

theorem isSignificant_of_mem_significantLines {line : String}
    (member : line ∈ significantLines text) : IsSignificant line.toList := by
  obtain ⟨found, member, same⟩ := List.mem_map.mp member
  rw [← same, String.toList_ofList]
  exact isSignificant_of_mem member

theorem significantLines_of_isSignificant {line : String} (significant : IsSignificant line.toList) :
    significantLines line = [line] := by
  rw [significantLines, significant.significantChars, List.map_singleton, String.ofList_toList]

/-- Joined significant lines are found again when there is a separator for every two of them. -/
theorem significantLines_interleave (significant : ∀ line ∈ lines, IsSignificant line.toList)
    (breaks : ∀ separator ∈ separators, IsBreakRun separator)
    (enough : lines.length ≤ separators.length + 1) :
    significantLines (interleave lines separators) = lines := by
  induction lines generalizing separators with
  | nil => rfl
  | cons line lines ih =>
    obtain ⟨first, others⟩ := List.forall_mem_cons.mp significant
    cases separators with
    | nil =>
      have alone : lines = [] := by simpa using enough
      rw [alone, interleave, interleave, String.append_empty]
      exact significantLines_of_isSignificant first
    | cons separator separators =>
      obtain ⟨run, runs⟩ := List.forall_mem_cons.mp breaks
      rw [interleave, ← String.append_assoc, significantLines_append_breaks run,
        significantLines_of_isSignificant first, ih others runs (Nat.le_of_succ_le_succ enough),
        List.singleton_append]

theorem isSignificant_of_trim {line : String} (shown : line ≠ "") (trimmed : trim line = line)
    (unbroken : ∀ c ∈ line.toList, isLineBreak c = false) : IsSignificant line.toList where
  shown := fun empty => shown (String.toList_eq_nil_iff.mp empty)
  trimmed := by rw [← toList_trim, trimmed]
  unbroken := unbroken

/-- Scanning respects the joining of texts by breaks, and its results are in a normal form: trimmed
lines with contents and without breaks.  Such a line is all that is found in itself, and the lines of
a text are found again when breaks join them. -/
theorem significantLines_homomorphism :
    (∀ first separator second : String, IsBreakRun separator →
        significantLines (first ++ separator ++ second) =
          significantLines first ++ significantLines second) ∧
      (∀ line : String, line ≠ "" → trim line = line →
        (∀ c ∈ line.toList, isLineBreak c = false) → significantLines line = [line]) ∧
      ∀ text : String,
        (∀ line ∈ significantLines text,
          line ≠ "" ∧ trim line = line ∧ ∀ c ∈ line.toList, isLineBreak c = false) ∧
        ∀ separators : List String, (∀ separator ∈ separators, IsBreakRun separator) →
          (significantLines text).length ≤ separators.length + 1 →
            significantLines (interleave (significantLines text) separators) =
              significantLines text := by
  refine ⟨fun first _ second breaks => significantLines_append_breaks breaks first second,
    fun line shown trimmed unbroken => ?_, fun text => ⟨?_, ?_⟩⟩
  · exact significantLines_of_isSignificant (isSignificant_of_trim shown trimmed unbroken)
  · intro line member
    have significant := isSignificant_of_mem_significantLines member
    refine ⟨?_, ?_, significant.unbroken⟩
    · rintro rfl
      exact significant.shown rfl
    · rw [trim, significant.trimmed, String.ofList_toList]
  · intro separators breaks enough
    exact significantLines_interleave (fun _ => isSignificant_of_mem_significantLines) breaks enough

theorem significantLines_homomorphism_carriage_return :
    IsBreakRun "\n\u2028\r" ∧
      significantLines ("if a:\r" ++ "\n\u2028\r" ++ "\n  b \x1c") =
        significantLines "if a:\r" ++ significantLines "\n  b \x1c" ∧
      significantLines "if a:" = ["if a:"] ∧
      significantLines (interleave (significantLines "if a:\r\n\n  b \x1c") ["\n\u2028\r"]) =
        significantLines "if a:\r\n\n  b \x1c" := by
  have breaks : IsBreakRun "\n\u2028\r" := by decide +kernel
  obtain ⟨joined, alone, found⟩ := significantLines_homomorphism
  refine ⟨breaks, joined _ _ _ breaks, alone _ ?_ ?_ ?_, (found _).2 _ ?_ ?_⟩
  · decide
  · decide +kernel
  · exact unbroken_of_all (by decide)
  · exact List.forall_mem_singleton.mpr breaks
  · decide +kernel

end Text
end CodeAssistant
