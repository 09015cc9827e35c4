import CodeAssistant.Http.Url
import Mathlib.Data.List.TakeWhile

namespace CodeAssistant
namespace Http
namespace Url

/-!
# Addresses that are put together

An address that consists of a scheme, a server and a path is read as these parts, if no character in
them ends the part or gets lost (`parse?_of_parts`).
-/

/-- The character neither gets lost nor ends the path. -/
def IsPlain (c : Char) : Prop :=
  0x20 < c.toNat ∧ c ≠ '?' ∧ c ≠ '#'

instance (c : Char) : Decidable (IsPlain c) :=
  inferInstanceAs (Decidable (_ ∧ _ ∧ _))

theorem dropWhile_of_not {p : Char → Bool} {cs : List Char} (kept : ∀ c ∈ cs, p c = false) :
    cs.dropWhile p = cs := by
  rw [List.dropWhile_eq_self_iff]
  intro nonempty
  rw [kept _ (List.getElem_mem nonempty)]
  exact Bool.false_ne_true

theorem cleaned_of_visible {cs : List Char} (visible : ∀ c ∈ cs, 0x20 < c.toNat) :
    cleaned cs = cs := by
  have kept : ∀ c ∈ cs, isControlOrSpace c = false := by
    intro c mem
    rw [isControlOrSpace, decide_eq_false_iff_not]
    exact Nat.not_le.mpr (visible c mem)
  have ending : Text.dropEndWhile isControlOrSpace cs = cs := by
    rw [Text.dropEndWhile, dropWhile_of_not fun c mem => kept c (List.mem_reverse.mp mem),
      List.reverse_reverse]
  rw [cleaned, dropWhile_of_not kept, ending, List.filter_eq_self]
  intro c mem
  have shown := visible c mem
  have others : c ≠ '\t' ∧ c ≠ '\n' ∧ c ≠ '\r' := by
    refine ⟨?_, ?_, ?_⟩ <;> rintro rfl <;> exact absurd shown (by decide)
  simp [others]

theorem isPlain_bne {cs : List Char} (plain : ∀ c ∈ cs, IsPlain c) :
    (∀ c ∈ cs, (c != '#') = true) ∧ ∀ c ∈ cs, (c != '?') = true := by
  constructor
  · intro c mem
    exact bne_iff_ne.mpr (plain c mem).2.2
  · intro c mem
    exact bne_iff_ne.mpr (plain c mem).2.1

/-- A text is cut at the first mark that stops. -/
theorem cut_before {p : Char → Bool} {before : List Char} (mark : Char)
    (passed : ∀ c ∈ before, p c = true) (stops : p mark = false) (after : List Char) :
    (before ++ mark :: after).takeWhile p = before ∧
      (before ++ mark :: after).dropWhile p = mark :: after := by
  rw [List.takeWhile_append_of_pos passed, List.dropWhile_append_of_pos passed,
    List.takeWhile_cons_of_neg (by simp [stops]), List.dropWhile_cons_of_neg (by simp [stops]),
    List.append_nil]
  exact ⟨rfl, rfl⟩

/-- What follows the scheme is cut before the first slash. -/
theorem parse?_of_parts {scheme server path : List Char} {authority : String}
    (known : scheme = ['h', 't', 't', 'p'] ∨ scheme = ['h', 't', 't', 'p', 's'])
    (plainServer : ∀ c ∈ server, IsPlain c ∧ isSlash c = false) (plainPath : ∀ c ∈ path, IsPlain c)
    (read : authority? (String.ofList scheme) server = some authority) :
    parse? (String.ofList (scheme ++ ':' :: '/' :: '/' :: (server ++ '/' :: path))) =
      some ⟨String.ofList scheme, authority, normalPath ('/' :: path), none⟩ := by
  have whole : ∀ c ∈ server ++ '/' :: path, IsPlain c := by
    intro c mem
    rw [List.mem_append, List.mem_cons] at mem
    rcases mem with inServer | rfl | inPath
    · exact (plainServer c inServer).1
    · decide
    · exact plainPath c inPath
  have letters : scheme.all (fun c => decide (0x20 < c.toNat) && c != ':') = true ∧
      scheme.map Char.toLower = scheme ∧
      (String.ofList scheme = "http" ∨ String.ofList scheme = "https") := by
    rcases known with rfl | rfl
    · exact ⟨by decide, by decide, Or.inl rfl⟩
    · exact ⟨by decide, by decide, Or.inr rfl⟩
  rcases letters with ⟨shown, lowered, usual⟩
  simp only [List.all_eq_true, Bool.and_eq_true, decide_eq_true_eq] at shown
  have visible : ∀ c ∈ scheme ++ ':' :: '/' :: '/' :: (server ++ '/' :: path), 0x20 < c.toNat := by
    intro c mem
    rw [List.mem_append, List.mem_cons, List.mem_cons, List.mem_cons] at mem
    rcases mem with inScheme | rfl | rfl | rfl | inRest
    · exact (shown c inScheme).1
    · decide
    · decide
    · decide
    · exact (whole c inRest).1
  have noColon : ∀ c ∈ scheme, (c != ':') = true := fun c mem => (shown c mem).2
  have slashes : ('/' :: '/' :: (server ++ '/' :: path)).dropWhile isSlash =
      server ++ '/' :: path := by
    cases server with
    | nil => cases read
    | cons c server =>
      have first := (plainServer c List.mem_cons_self).2
      rw [List.dropWhile_cons_of_pos (by decide), List.dropWhile_cons_of_pos (by decide),
        List.cons_append, List.dropWhile_cons_of_neg (by simp [first])]
  rcases isPlain_bne whole with ⟨noFragment, noQuery⟩
  have ends : ∀ c ∈ server, (!(isSlash c || c == '?')) = true := by
    intro c mem
    simp [(plainServer c mem).2, (plainServer c mem).1.2.1]
  rcases cut_before '/' ends rfl path with ⟨serverOnly, afterServer⟩
  rcases cut_before ':' noColon rfl ('/' :: '/' :: (server ++ '/' :: path)) with ⟨name, rest⟩
  have noQuery' : (server ++ '/' :: path).dropWhile (· != '?') = [] :=
    List.dropWhile_eq_nil_iff.mpr noQuery
  have pathOnly : ('/' :: path).takeWhile (· != '?') = '/' :: path :=
    List.takeWhile_eq_self_iff.mpr fun c mem => noQuery c (List.mem_append_right _ mem)
  have restOnly : (server ++ '/' :: path).takeWhile (· != '#') = server ++ '/' :: path :=
    List.takeWhile_eq_self_iff.mpr noFragment
  rw [parse?, String.toList_ofList, cleaned_of_visible visible]
  simp only [name, lowered, rest, if_pos usual, slashes, restOnly, serverOnly, afterServer,
    pathOnly, noQuery', read, Option.map_some]

end Url
end Http
end CodeAssistant
