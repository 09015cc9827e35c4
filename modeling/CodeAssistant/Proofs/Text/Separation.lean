import CodeAssistant.Proofs.Number.Numerals
import CodeAssistant.Text.Search

namespace CodeAssistant
namespace Text

/-!
# Fields of a text

When a text is put together from fields, a field can be read back if it lacks the character that
comes after it (`append_stop_inj`).  A field of a table must in addition lack the characters that
end a cell and a row.
-/

/-- A mark ends the text before it, if that text lacks the mark. -/
theorem append_cons_inj_of_lacks {mark : Char} {first second r s : List Char}
    (firstLacks : mark ∉ first) (secondLacks : mark ∉ second)
    (same : first ++ mark :: r = second ++ mark :: s) : first = second := by
  induction first generalizing second with
  | nil =>
    cases second with
    | nil => rfl
    | cons c second =>
      rw [List.nil_append, List.cons_append, List.cons.injEq] at same
      exact absurd (same.1 ▸ List.mem_cons_self) secondLacks
  | cons c first ih =>
    cases second with
    | nil =>
      rw [List.nil_append, List.cons_append, List.cons.injEq] at same
      exact absurd (same.1 ▸ List.mem_cons_self) firstLacks
    | cons d second =>
      rw [List.cons_append, List.cons_append, List.cons.injEq] at same
      rw [List.mem_cons, not_or] at firstLacks secondLacks
      rw [same.1, ih firstLacks.2 secondLacks.2 same.2]

/-- Two texts with the same stop after them are told apart from it and from what follows. -/
theorem append_stop_inj (mark : Char) {stop first second r s : String}
    (starts : stop.toList.head? = some mark) (firstLacks : mark ∉ first.toList)
    (secondLacks : mark ∉ second.toList) (same : first ++ (stop ++ r) = second ++ (stop ++ s)) :
    first = second ∧ r = s := by
  obtain ⟨rest, split⟩ := List.head?_eq_some_iff.mp starts
  have chars := congrArg String.toList same
  simp only [String.toList_append, split, List.cons_append] at chars
  have texts : first = second :=
    String.toList_inj.mp (append_cons_inj_of_lacks firstLacks secondLacks chars)
  rw [texts, String.append_right_inj, String.append_right_inj] at same
  exact ⟨texts, same⟩

theorem append_ne_append {c d : Char} {first second r s : String}
    (firstStarts : first.toList.head? = some c) (secondStarts : second.toList.head? = some d)
    (different : c ≠ d) : first ++ r ≠ second ++ s := by
  intro same
  have starts := congrArg (fun s => s.toList.head?) same
  simp only [String.toList_append, List.head?_append, firstStarts, secondStarts, Option.some_or,
    Option.some.injEq] at starts
  exact different starts

theorem ne_append_of_head? {c d : Char} {s first : String} (starts : s.toList.head? = some c)
    (firstStarts : first.toList.head? = some d) (different : c ≠ d) (r : String) :
    s ≠ first ++ r := by
  rw [← String.append_empty (s := s)]
  exact append_ne_append starts firstStarts different

/-- The text neither ends its line nor its table cell. -/
def FitsCell (s : String) : Prop :=
  ∀ c ∈ s.toList, c ≠ '\n' ∧ c ≠ '|'

instance (s : String) : Decidable (FitsCell s) :=
  decidable_of_iff (s.toList.all (fun c => c ≠ '\n' ∧ c ≠ '|') = true) (by simp [FitsCell])

namespace FitsCell

theorem append {first second : String} (start : FitsCell first) (rest : FitsCell second) :
    FitsCell (first ++ second) := by
  intro c member
  rw [String.toList_append, List.mem_append] at member
  exact member.elim (start c) (rest c)

theorem decimal (n : Nat) : FitsCell (decimal n) := by
  intro c member
  have digit := isDigit_of_mem_decimal member
  constructor
  · rintro rfl
    exact absurd digit (by decide)
  · rintro rfl
    exact absurd digit (by decide)

/-- A numeral fits between texts that fit. -/
theorem around {start stop : String} (n : Nat) (before : FitsCell start) (after : FitsCell stop) :
    FitsCell (start ++ CodeAssistant.decimal n ++ stop) :=
  (before.append (decimal n)).append after

theorem ite {p : Prop} [Decidable p] {first second : String} (whenTrue : FitsCell first)
    (whenFalse : FitsCell second) : FitsCell (if p then first else second) := by
  split
  · exact whenTrue
  · exact whenFalse

theorem not_newline {s : String} (fits : FitsCell s) : '\n' ∉ s.toList :=
  fun member => (fits _ member).1 rfl

theorem not_bar {s : String} (fits : FitsCell s) : '|' ∉ s.toList :=
  fun member => (fits _ member).2 rfl

end FitsCell

theorem replaceChar_of_lacks {c : Char} {cs : List Char} (lacks : c ∉ cs) (word : List Char) :
    replaceChar c word cs = cs := by
  induction cs with
  | nil => rfl
  | cons x cs ih =>
    rw [List.mem_cons, not_or] at lacks
    have rest : replaceChar c word cs = cs := ih lacks.2
    rw [replaceChar, List.flatMap_cons, if_neg (Ne.symm lacks.1), ← replaceChar, rest,
      List.singleton_append]

end Text
end CodeAssistant
