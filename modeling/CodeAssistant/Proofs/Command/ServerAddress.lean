import CodeAssistant.Command.Client
import CodeAssistant.Proofs.Service.Backends
import Mathlib.Data.List.DropRight

namespace CodeAssistant

/-!
# Addresses of servers

The address of a server is brought into a form to which paths can be added: blanks around it go
first, and then the slashes at its end.  What is left is not looked at again, and an address may end
in any mixture of blanks and slashes.  An address of slashes alone leaves nothing, and a blank in
front of the last slashes is left at the end.  Every other address gets a form without blanks or
slashes at its end that stays as it is (`baseUrl?_canonical_iff`).
-/

namespace Text

variable {cs : List Char}

theorem dropEndWhile_eq_rdropWhile (p : Char → Bool) (cs : List Char) :
    dropEndWhile p cs = cs.rdropWhile p := rfl

/-- A text ends with the characters that are dropped at its end. -/
theorem exists_append_replicate (c : Char) (cs : List Char) :
    ∃ n, cs = dropEndWhile (· == c) cs ++ List.replicate n c := by
  have alike : ∀ x ∈ cs.rtakeWhile (· == c), x = c := fun _ member =>
    beq_iff_eq.mp (List.mem_rtakeWhile_imp (p := (· == c)) member)
  refine ⟨(cs.rtakeWhile (· == c)).length, ?_⟩
  rw [← List.eq_replicate_of_mem alike, dropEndWhile_eq_rdropWhile,
    List.rdropWhile_append_rtakeWhile]

theorem getLast?_dropEndWhile {p : Char → Bool} {last : Char}
    (final : (dropEndWhile p cs).getLast? = some last) : ¬p last = true := by
  rw [← List.getLast_of_getLast?_eq_some final]
  exact List.rdropWhile_last_not p cs _

end Text

namespace Client

open Text

/-- Without the blanks around it the address is slashes behind a character that is neither a slash
nor a blank. -/
def EndsInName (url : String) : Prop :=
  ∃ (before : List Char) (last : Char) (slashes : Nat),
    trimChars url.toList = before ++ last :: List.replicate slashes '/' ∧
      last ≠ '/' ∧ isBlank last = false

variable {url base : String}

/-- Only a blank address has no form. -/
theorem baseUrl?_eq_none_iff : baseUrl? url = none ↔ ∀ c ∈ url.toList, isBlank c = true := by
  unfold baseUrl?
  rw [← trimChars_eq_nil_iff]
  by_cases blank : trimChars url.toList = []
  · simp [blank]
  · simp [blank]

theorem baseUrl?_eq_some_iff :
    baseUrl? url = some base ↔ trimChars url.toList ≠ [] ∧
      base.toList = dropEndWhile (· == '/') (trimChars url.toList) := by
  unfold baseUrl?
  by_cases blank : trimChars url.toList = []
  · simp [blank]
  · rw [if_neg blank, Option.some.injEq, ← String.toList_inj, String.toList_ofList]
    exact ⟨fun same => ⟨blank, same.symm⟩, fun both => both.2.symm⟩

/-- What is dropped from an address are the blanks around it and the slashes at its end. -/
theorem exists_slashes (found : baseUrl? url = some base) :
    ∃ slashes, trimChars url.toList = base.toList ++ List.replicate slashes '/' := by
  rw [(baseUrl?_eq_some_iff.mp found).2]
  exact exists_append_replicate '/' _

theorem getLast?_ne_slash (found : baseUrl? url = some base) :
    base.toList.getLast? ≠ some '/' := by
  rw [(baseUrl?_eq_some_iff.mp found).2]
  intro last
  exact absurd (getLast?_dropEndWhile last) (by decide)

theorem starts_shown (found : baseUrl? url = some base) :
    ∀ c, base.toList.head? = some c → isBlank c = false := by
  obtain ⟨slashes, trimmed⟩ := exists_slashes found
  intro c first
  apply (trimChars_eq_self_iff.mp (trimChars_trimChars url.toList)).1
  rw [trimmed, List.head?_append, first, Option.some_or]

/-- The character behind which an address has its last slashes is the last one of its form. -/
theorem endsInName_iff (found : baseUrl? url = some base) :
    EndsInName url ↔ ∃ last, base.toList.getLast? = some last ∧ isBlank last = false := by
  constructor
  · rintro ⟨before, last, slashes, trimmed, other, shown⟩
    have kept : ∀ c, (before ++ [last]).getLast? = some c → (c == '/') = false := by
      intro c final
      rw [List.getLast?_concat, Option.some.injEq] at final
      rw [← final]
      exact beq_false_of_ne other
    refine ⟨last, ?_, shown⟩
    rw [(baseUrl?_eq_some_iff.mp found).2, trimmed, List.append_cons,
      dropEndWhile_append_replicate kept rfl, List.getLast?_concat]
  · rintro ⟨last, final, shown⟩
    obtain ⟨before, split⟩ := List.getLast?_eq_some_iff.mp final
    obtain ⟨slashes, trimmed⟩ := exists_slashes found
    refine ⟨before, last, slashes, ?_, ?_, shown⟩
    · rw [trimmed, split, List.append_assoc, List.singleton_append]
    · rintro rfl
      exact getLast?_ne_slash found final

/-- An address in its form stays as it is unless it is empty or ends in a blank. -/
theorem baseUrl?_base_iff (found : baseUrl? url = some base) :
    baseUrl? base = some base ↔
      ∃ last, base.toList.getLast? = some last ∧ isBlank last = false := by
  constructor
  · intro again
    obtain ⟨before, after, -, -, whole⟩ := exists_blanks_trimChars base.toList
    obtain ⟨slashes, trimmed⟩ := exists_slashes again
    have lengths := congrArg List.length whole
    have longer := congrArg List.length trimmed
    simp only [List.length_append, List.length_replicate] at lengths longer
    have same : trimChars base.toList = base.toList := by
      rw [trimmed, show slashes = 0 by omega, List.replicate_zero, List.append_nil]
    have filled : base.toList ≠ [] := same ▸ (baseUrl?_eq_some_iff.mp again).1
    have final := List.getLast?_eq_some_getLast filled
    exact ⟨_, final, (trimChars_eq_self_iff.mp same).2 _ final⟩
  · rintro ⟨last, final, shown⟩
    have same : trimChars base.toList = base.toList := by
      refine trimChars_eq_self_iff.mpr ⟨starts_shown found, fun c again => ?_⟩
      rw [← Option.some.inj (final.symm.trans again), shown]
    have form := (baseUrl?_eq_some_iff.mp found).2
    rw [baseUrl?_eq_some_iff, same]
    constructor
    · intro empty
      rw [empty] at final
      cases final
    · rw [form, dropEndWhile_eq_rdropWhile, dropEndWhile_eq_rdropWhile,
        List.rdropWhile_idempotent]

/-- The form ends in a shown character, and is not empty, when the address ends in a name. -/
theorem ends_shown_iff (found : baseUrl? url = some base) :
    (base ≠ "" ∧ ∀ c, base.toList.getLast? = some c → isBlank c = false) ↔ EndsInName url := by
  rw [endsInName_iff found]
  constructor
  · rintro ⟨filled, shown⟩
    have final := List.getLast?_eq_some_getLast (mt String.toList_eq_nil_iff.mp filled)
    exact ⟨_, final, shown _ final⟩
  · rintro ⟨last, final, shown⟩
    constructor
    · rintro rfl
      cases final
    · intro c again
      rw [← Option.some.inj (final.symm.trans again), shown]

/-- Every address has a form unless it is blank.  The form never ends in a slash and never begins
with a blank.  It is not empty and does not end in a blank, and it stays as it is, exactly when the
address ends in a name with nothing but slashes behind it. -/
theorem baseUrl?_canonical_iff (url : String) :
    (baseUrl? url = none ↔ ∀ c ∈ url.toList, isBlank c = true) ∧
      ∀ base, baseUrl? url = some base →
        (base.toList.getLast? ≠ some '/' ∧ ∀ c, base.toList.head? = some c → isBlank c = false) ∧
          ((base ≠ "" ∧ ∀ c, base.toList.getLast? = some c → isBlank c = false) ↔
            EndsInName url) ∧
          (baseUrl? base = some base ↔ EndsInName url) := by
  refine ⟨baseUrl?_eq_none_iff, fun base found => ?_⟩
  refine ⟨⟨getLast?_ne_slash found, starts_shown found⟩, ends_shown_iff found, ?_⟩
  rw [baseUrl?_base_iff found, endsInName_iff found]

theorem baseUrl?_canonical_localhost :
    baseUrl? " http://localhost:8000// " = some "http://localhost:8000" ∧
      EndsInName " http://localhost:8000// " ∧
      baseUrl? "http://localhost:8000" = some "http://localhost:8000" := by
  have found : baseUrl? " http://localhost:8000// " = some "http://localhost:8000" := by decide
  have named : EndsInName " http://localhost:8000// " :=
    ⟨"http://localhost:800".toList, '0', 2, by decide, by decide, by decide⟩
  exact ⟨found, named, ((baseUrl?_canonical_iff _).2 _ found).2.2.mpr named⟩

/-- A slash alone leaves nothing, which is no address, and a blank before the last slash stays. -/
theorem baseUrl?_slash_behind_blank :
    baseUrl? "/" = some "" ∧ baseUrl? "" = none ∧
      baseUrl? "http://localhost:8000 /" = some "http://localhost:8000 " ∧
      baseUrl? "http://localhost:8000 " = some "http://localhost:8000" := by
  decide

end Client

end CodeAssistant
