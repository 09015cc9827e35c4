import CodeAssistant.Proofs.Text.Trimming
import CodeAssistant.Text.Line

namespace CodeAssistant
namespace Text

/-!
# How a text is cut into lines

Line breaks are read one character at a time, except that a carriage return and the line feed after
it are one break.  What is gathered from the lines of a text and does not see empty lines cannot tell
the difference: taken as two breaks, the pair encloses an empty line.  Anything of this kind can
therefore be read off the two sides of a break separately (`flatMap_linesFrom_append_break`).
-/

variable {line cs : List Char}

theorem unbroken_of_all (checked : line.all (fun c => !isLineBreak c) = true) :
    ∀ c ∈ line, isLineBreak c = false := by
  simpa using checked

/-! ## Reading one character -/

theorem linesFrom_of_not_break {c : Char} (other : isLineBreak c = false) (line rest : List Char) :
    linesFrom line (c :: rest) = linesFrom (c :: line) rest := by
  have apart : ∀ tail, c = '\r' → rest = '\n' :: tail → False := by
    intro tail carriage
    rw [carriage] at other
    exact absurd other (by decide)
  rw [linesFrom, if_neg (by simp [other])]
  exact apart

theorem linesFrom_of_break {c : Char} (ends : isLineBreak c = true) {line rest : List Char}
    (apart : ∀ tail, c = '\r' → rest = '\n' :: tail → False) :
    linesFrom line (c :: rest) = line.reverse :: linesFrom [] rest := by
  rw [linesFrom, if_pos ends]
  exact apart

theorem unbroken_of_mem_linesFrom {found : List Char}
    (unbroken : ∀ c ∈ line, isLineBreak c = false) (member : found ∈ linesFrom line cs) :
    ∀ c ∈ found, isLineBreak c = false := by
  fun_induction linesFrom line cs with
  | case1 line empty => cases member
  | case2 line shown =>
    rw [List.mem_singleton.mp member]
    simpa using unbroken
  | case3 line rest ih =>
    rcases List.mem_cons.mp member with same | later
    · rw [same]
      simpa using unbroken
    · exact ih (by simp) later
  | case4 line c rest apart ends ih =>
    rcases List.mem_cons.mp member with same | later
    · rw [same]
      simpa using unbroken
    · exact ih (by simp) later
  | case5 line c rest apart other ih =>
    exact ih (List.forall_mem_cons.mpr ⟨Bool.eq_false_iff.mpr other, unbroken⟩) member

/-! ## What is gathered from the lines -/

section Gathering

variable {β : Type} {gather : List Char → List β}

theorem flatMap_linesFrom_nil (ofEmpty : gather [] = []) (line : List Char) :
    (linesFrom line []).flatMap gather = gather line.reverse := by
  cases line with
  | nil => exact ofEmpty.symm
  | cons c line => simp [linesFrom]

/-- A break closes the line before it.  A line feed that belongs to the break is read again as an
empty line, from which nothing is gathered. -/
theorem flatMap_linesFrom_of_break (ofEmpty : gather [] = []) {c : Char}
    (ends : isLineBreak c = true) (line rest : List Char) :
    (linesFrom line (c :: rest)).flatMap gather =
      gather line.reverse ++ (splitLines rest).flatMap gather := by
  by_cases paired : ∃ tail, c = '\r' ∧ rest = '\n' :: tail
  · obtain ⟨tail, carriage, feed⟩ := paired
    have again : splitLines ('\n' :: tail) = [] :: splitLines tail := rfl
    subst carriage feed
    rw [linesFrom, List.flatMap_cons, again, List.flatMap_cons, ofEmpty, List.nil_append]
    rfl
  · have apart : ∀ tail, c = '\r' → rest = '\n' :: tail → False := fun tail carriage feed =>
      paired ⟨tail, carriage, feed⟩
    rw [linesFrom_of_break ends apart, List.flatMap_cons]
    rfl

/-- The equation at a break. -/
theorem flatMap_linesFrom_append_break (ofEmpty : gather [] = []) {c : Char}
    (ends : isLineBreak c = true) (line first second : List Char) :
    (linesFrom line (first ++ c :: second)).flatMap gather =
      (linesFrom line first).flatMap gather ++ (splitLines second).flatMap gather := by
  induction first generalizing line with
  | nil =>
    rw [List.nil_append, flatMap_linesFrom_of_break ofEmpty ends, flatMap_linesFrom_nil ofEmpty]
  | cons d first ih =>
    cases other : isLineBreak d with
    | true =>
      have rest : (splitLines (first ++ c :: second)).flatMap gather =
          (splitLines first).flatMap gather ++ (splitLines second).flatMap gather := ih []
      rw [List.cons_append, flatMap_linesFrom_of_break ofEmpty other,
        flatMap_linesFrom_of_break ofEmpty other, rest, List.append_assoc]
    | false =>
      rw [List.cons_append, linesFrom_of_not_break other, linesFrom_of_not_break other, ih]

end Gathering

/-! ## The first line and the others -/

theorem linesFrom_of_unbroken {start : List Char} (unbroken : ∀ c ∈ start, isLineBreak c = false)
    (line cs : List Char) : linesFrom line (start ++ cs) = linesFrom (start.reverse ++ line) cs := by
  induction start generalizing line with
  | nil => rfl
  | cons c start ih =>
    obtain ⟨other, others⟩ := List.forall_mem_cons.mp unbroken
    rw [List.cons_append, linesFrom_of_not_break other, ih others, List.reverse_cons,
      List.append_assoc, List.singleton_append]

/-- What has been read of a line has no influence on the lines after it. -/
theorem tail_linesFrom (line cs : List Char) :
    (linesFrom line cs).tail = (splitLines cs).tail := by
  have same (other : List Char) : (linesFrom line cs).tail = (linesFrom other cs).tail := by
    fun_induction linesFrom line cs generalizing other with
    | case1 line empty => cases other <;> rfl
    | case2 line shown => cases other <;> rfl
    | case3 line rest ih => rfl
    | case4 line c rest apart ends ih => rw [linesFrom_of_break ends apart, List.tail_cons]; rfl
    | case5 line c rest apart inside ih =>
      rw [ih (c :: other), linesFrom_of_not_break (Bool.eq_false_iff.mpr inside)]
  exact same []

/-- A line that has been begun is the first one, and goes on from there. -/
theorem exists_linesFrom_eq_cons (begun : line ≠ []) (cs : List Char) :
    ∃ more, linesFrom line cs = (line.reverse ++ more) :: (splitLines cs).tail := by
  rw [← tail_linesFrom line cs]
  fun_induction linesFrom line cs with
  | case1 line empty => exact absurd (List.isEmpty_iff.mp empty) begun
  | case2 line shown => exact ⟨[], by rw [List.append_nil]; rfl⟩
  | case3 line rest ih => exact ⟨[], by rw [List.append_nil]; rfl⟩
  | case4 line c rest apart ends ih => exact ⟨[], by rw [List.append_nil]; rfl⟩
  | case5 line c rest apart other ih =>
    obtain ⟨more, split⟩ := ih (List.cons_ne_nil c line)
    refine ⟨c :: more, ?_⟩
    rw [List.reverse_cons, List.append_assoc, List.singleton_append] at split
    exact split

end Text
end CodeAssistant
