import CodeAssistant.Text.Blank
import Mathlib.Data.List.DropRight

namespace CodeAssistant
namespace Text

/-!
# What trimming keeps

Trimming removes a run of blanks at the start and another one at the end.  The two removals commute
(`trimStart_trimEnd`), because a text that is not all blank has a first and a last character that
neither of them touches.  Everything else follows: blanks around a text do not matter
(`trimChars_blank_append`, `trimChars_append_blank`), a trimmed text stays as it is
(`trimChars_trimChars`), and the original is the trimmed text with blanks around it
(`exists_blanks_trimChars`).
-/

variable {cs before after : List Char}

@[simp]
theorem trimStart_nil : trimStart [] = [] := rfl

theorem trimStart_cons_of_blank {c : Char} (blank : isBlank c = true) :
    trimStart (c :: cs) = trimStart cs :=
  List.dropWhile_cons_of_pos blank

theorem trimStart_cons_of_not_blank {c : Char} (shown : ¬isBlank c = true) :
    trimStart (c :: cs) = c :: cs :=
  List.dropWhile_cons_of_neg shown

theorem trimStart_append (blank : ∀ c ∈ before, isBlank c = true) :
    trimStart (before ++ cs) = trimStart cs :=
  List.dropWhile_append_of_pos blank

theorem trimEnd_append (blank : ∀ c ∈ after, isBlank c = true) :
    trimEnd (cs ++ after) = trimEnd cs := by
  have reversed : ∀ c ∈ after.reverse, isBlank c = true := by simpa using blank
  rw [trimEnd, List.reverse_append, trimStart_append reversed, trimEnd]

/-- A first character goes with the blanks at the end only when nothing is left behind it. -/
theorem trimEnd_cons (c : Char) (cs : List Char) :
    trimEnd (c :: cs) =
      if trimEnd cs = [] ∧ isBlank c = true then [] else c :: trimEnd cs := by
  have step : trimStart (cs.reverse ++ [c]) =
      if (trimStart cs.reverse).isEmpty then trimStart [c] else trimStart cs.reverse ++ [c] :=
    List.dropWhile_append
  rw [trimEnd, List.reverse_cons, step, trimEnd]
  by_cases rest : trimStart cs.reverse = []
  · by_cases blank : isBlank c = true
    · rw [trimStart_cons_of_blank blank]
      simp [rest, blank]
    · rw [trimStart_cons_of_not_blank blank]
      simp [rest, blank]
  · simp [rest]

/-- The two ends are trimmed independently of each other. -/
theorem trimStart_trimEnd (cs : List Char) : trimStart (trimEnd cs) = trimEnd (trimStart cs) := by
  induction cs with
  | nil => rfl
  | cons c cs ih =>
    by_cases blank : isBlank c = true
    · rw [trimStart_cons_of_blank blank, ← ih, trimEnd_cons]
      by_cases rest : trimEnd cs = []
      · rw [if_pos ⟨rest, blank⟩, rest]
      · rw [if_neg (fun both => rest both.1), trimStart_cons_of_blank blank]
    · rw [trimStart_cons_of_not_blank blank, trimEnd_cons, if_neg (fun both => blank both.2),
        trimStart_cons_of_not_blank blank]

theorem trimStart_trimStart (cs : List Char) : trimStart (trimStart cs) = trimStart cs :=
  List.dropWhile_idempotent _ cs

theorem trimEnd_trimEnd (cs : List Char) : trimEnd (trimEnd cs) = trimEnd cs := by
  rw [trimEnd, trimEnd, List.reverse_reverse, trimStart_trimStart]

/-- Blanks before a text are lost in trimming. -/
theorem trimChars_blank_append (blank : ∀ c ∈ before, isBlank c = true) :
    trimChars (before ++ cs) = trimChars cs := by
  rw [trimChars, trimStart_append blank, trimChars]

/-- Blanks after a text are lost in trimming. -/
theorem trimChars_append_blank (blank : ∀ c ∈ after, isBlank c = true) :
    trimChars (cs ++ after) = trimChars cs := by
  rw [trimChars, ← trimStart_trimEnd, trimEnd_append blank, trimStart_trimEnd, trimChars]

/-- A trimmed text has no blanks left to trim. -/
theorem trimChars_trimChars (cs : List Char) : trimChars (trimChars cs) = trimChars cs := by
  rw [trimChars, trimChars, trimStart_trimEnd, trimStart_trimStart, trimEnd_trimEnd]

theorem trim_trim (s : String) : trim (trim s) = trim s := by
  rw [trim, toList_trim, trimChars_trimChars, trim]

theorem mem_of_mem_trimStart {c : Char} (member : c ∈ trimStart cs) : c ∈ cs :=
  (List.dropWhile_sublist isBlank).subset member

theorem mem_of_mem_trimEnd {c : Char} (member : c ∈ trimEnd cs) : c ∈ cs :=
  List.mem_reverse.mp (mem_of_mem_trimStart (List.mem_reverse.mp member))

theorem mem_of_mem_trimChars {c : Char} (member : c ∈ trimChars cs) : c ∈ cs :=
  mem_of_mem_trimStart (mem_of_mem_trimEnd member)

/-- A text begins with the blanks that trimming removes at its start. -/
theorem exists_blanks_trimStart (cs : List Char) :
    ∃ before : List Char, (∀ c ∈ before, isBlank c = true) ∧ cs = before ++ trimStart cs :=
  ⟨cs.takeWhile isBlank, List.all_eq_true.mp List.all_takeWhile,
    List.takeWhile_append_dropWhile.symm⟩

/-- A text ends with the blanks that trimming removes at its end. -/
theorem exists_blanks_trimEnd (cs : List Char) :
    ∃ after : List Char, (∀ c ∈ after, isBlank c = true) ∧ cs = trimEnd cs ++ after := by
  obtain ⟨after, blank, finish⟩ := exists_blanks_trimStart cs.reverse
  refine ⟨after.reverse, by simpa using blank, ?_⟩
  rw [trimEnd, ← List.reverse_append, ← finish, List.reverse_reverse]

/-- A text is its trimmed form with blanks around it. -/
theorem exists_blanks_trimChars (cs : List Char) :
    ∃ before after : List Char, (∀ c ∈ before, isBlank c = true) ∧
      (∀ c ∈ after, isBlank c = true) ∧ cs = before ++ trimChars cs ++ after := by
  obtain ⟨before, blankBefore, start⟩ := exists_blanks_trimStart cs
  obtain ⟨after, blankAfter, finish⟩ := exists_blanks_trimEnd (trimStart cs)
  refine ⟨before, after, blankBefore, blankAfter, ?_⟩
  rw [List.append_assoc, trimChars, ← finish]
  exact start

/-- Nothing is trimmed at the start of a text that starts with a shown character. -/
theorem trimStart_eq_self_iff :
    trimStart cs = cs ↔ ∀ c, cs.head? = some c → isBlank c = false := by
  cases cs with
  | nil => simp
  | cons c cs =>
    by_cases blank : isBlank c = true
    · have shorter : trimStart cs ≠ c :: cs := by
        intro same
        have lengths := (List.dropWhile_sublist (l := cs) isBlank).length_le
        rw [← trimStart, same, List.length_cons] at lengths
        omega
      simp [trimStart_cons_of_blank blank, shorter, blank]
    · simp [trimStart_cons_of_not_blank blank, Bool.eq_false_iff.mpr blank]

theorem trimEnd_eq_self_iff :
    trimEnd cs = cs ↔ ∀ c, cs.getLast? = some c → isBlank c = false := by
  rw [trimEnd, List.reverse_eq_iff, trimStart_eq_self_iff, List.head?_reverse]

/-- A text is trimmed when it neither begins nor ends with a blank. -/
theorem trimChars_eq_self_iff :
    trimChars cs = cs ↔ (∀ c, cs.head? = some c → isBlank c = false) ∧
      ∀ c, cs.getLast? = some c → isBlank c = false := by
  rw [← trimStart_eq_self_iff, ← trimEnd_eq_self_iff]
  constructor
  · intro trimmed
    rw [← trimmed]
    constructor
    · rw [trimChars, trimStart_trimEnd, trimStart_trimStart]
    · rw [trimChars, trimEnd_trimEnd]
  · rintro ⟨start, finish⟩
    rw [trimChars, start, finish]

end Text
end CodeAssistant
