import CodeAssistant.Json.Reading
import CodeAssistant.Proofs.Json.Tokens

namespace CodeAssistant
namespace Json

/-!
# Values that can be read back

A value that is written can be read back if its numbers are numbers and all its strings are texts
(`Legible`).  The text is cut into the tokens of the value (`cuts_compact`), and the tokens, read
wherever a value is wanted, complete that value and leave what is around it alone
(`foldlM_tokens`).  Together they give the way back from the text to the value (`parse?_compact`).
-/

/-- All numbers inside the value are numbers, and all strings are texts. -/
inductive Legible : Json → Prop
  | null : Legible .null
  | bool (value : Bool) : Legible (.bool value)
  | number {literal : String} (spelled : isNumber literal.toList = true) :
      Legible (.number literal)
  | string (text : String) : Legible (.string text)
  | array {items : List Json} (inside : ∀ item ∈ items, Legible item) : Legible (.array items)
  | object {members : List (String × Json)} (inside : ∀ member ∈ members, Legible member.2) :
      Legible (.object members)

theorem Legible.textOrNull (text : Option String) : Legible (.textOrNull text) := by
  cases text with
  | none => exact .null
  | some text => exact .string text

theorem Legible.texts (items : List String) : Legible (.texts items) := by
  apply Legible.array
  intro item mem
  rcases List.mem_map.mp mem with ⟨text, -, rfl⟩
  exact .string text

mutual

/-- The tokens of a value. -/
def tokens : Json → List Token
  | .string text => [.string (some text)]
  | .array items => .openArray :: (itemTokens items ++ [.closeArray])
  | .object members => .openObject :: (memberTokens members ++ [.closeObject])
  | value => [.scalar value]

/-- The tokens of items with commas between them. -/
def itemTokens : List Json → List Token
  | [] => []
  | item :: rest => tokens item ++ ((if rest.isEmpty then [] else [.comma]) ++ itemTokens rest)

/-- The tokens of members with commas between them. -/
def memberTokens : List (String × Json) → List Token
  | [] => []
  | (key, value) :: rest =>
    .string (some key) :: .colon ::
      (tokens value ++ ((if rest.isEmpty then [] else [.comma]) ++ memberTokens rest))

end

/-! ## Reading tokens -/

/-- Where an item may stand, a value is read in the same way as after a comma. -/
theorem foldlM_tokens_wantItem (value : Json) (around : List Frame) (rest : List Token) :
    (value.tokens ++ rest).foldlM State.step (.wantItem around) =
      (value.tokens ++ rest).foldlM State.step (.wantValue (.item [] :: around)) := by
  cases value <;> rfl

/-- The value is read wherever one is wanted. -/
def IsRead (value : Json) : Prop :=
  ∀ around, value.tokens.foldlM State.step (.wantValue around) = some (.complete value around)

theorem foldlM_itemTokens {items : List Json} (inside : ∀ item ∈ items, IsRead item)
    (some_item : items ≠ []) (before : List Json) (around : List Frame) :
    (itemTokens items ++ [Token.closeArray]).foldlM State.step
        (.wantValue (.item before :: around)) =
      some (.complete (.array (before.reverse ++ items)) around) := by
  induction items generalizing before with
  | nil => exact absurd rfl some_item
  | cons item rest ih =>
    have first := inside item List.mem_cons_self (.item before :: around)
    have others : ∀ item ∈ rest, IsRead item :=
      fun item mem => inside item (List.mem_cons_of_mem _ mem)
    rw [itemTokens, List.append_assoc, List.foldlM_append, first, Option.bind_eq_bind,
      Option.bind_some]
    cases rest with
    | nil => simp [itemTokens, State.step]
    | cons next rest =>
      have further := ih others (List.cons_ne_nil _ _) (item :: before)
      rw [List.isEmpty_cons, if_neg (by decide), List.append_assoc, List.singleton_append,
        List.foldlM_cons, State.step, Option.bind_eq_bind, Option.bind_some, further]
      simp

theorem foldlM_memberTokens {members : List (String × Json)}
    (inside : ∀ member ∈ members, IsRead member.2) (some_member : members ≠ [])
    (before : List (String × Json)) (around : List Frame) :
    (memberTokens members ++ [Token.closeObject]).foldlM State.step
        (.wantKey (some before) around) =
      some (.complete (.object (before.reverse ++ members)) around) := by
  induction members generalizing before with
  | nil => exact absurd rfl some_member
  | cons member rest ih =>
    rcases member with ⟨key, value⟩
    have first := inside (key, value) List.mem_cons_self
      (.member (some before) (some key) :: around)
    have others : ∀ member ∈ rest, IsRead member.2 :=
      fun member mem => inside member (List.mem_cons_of_mem _ mem)
    rw [memberTokens, List.cons_append, List.cons_append, List.foldlM_cons, State.step,
      Option.bind_eq_bind, Option.bind_some, List.foldlM_cons, State.step, Option.bind_eq_bind,
      Option.bind_some, List.append_assoc, List.foldlM_append, first, Option.bind_eq_bind,
      Option.bind_some]
    cases rest with
    | nil => simp [memberTokens, State.step, Members.add, Members.close]
    | cons next rest =>
      have further := ih others (List.cons_ne_nil _ _) ((key, value) :: before)
      rw [List.isEmpty_cons, if_neg (by decide), List.append_assoc, List.singleton_append,
        List.foldlM_cons, State.step, Option.bind_eq_bind, Option.bind_some, Members.add, further]
      simp

theorem foldlM_tokens {value : Json} (legible : value.Legible) : IsRead value := by
  induction legible with
  | null => exact fun around => rfl
  | bool value => exact fun around => rfl
  | number spelled => exact fun around => rfl
  | string text => exact fun around => rfl
  | @array items inside ih =>
    intro around
    rw [tokens, List.foldlM_cons, State.step, State.enter, Option.bind_eq_bind, Option.bind_some]
    cases items with
    | nil => rfl
    | cons item rest =>
      -- The reader still expects an item or the end, but the first token of an item decides that.
      have read := foldlM_itemTokens ih (List.cons_ne_nil _ _) [] around
      rw [itemTokens, List.append_assoc] at read ⊢
      rw [foldlM_tokens_wantItem]
      exact read
  | @object members inside ih =>
    intro around
    rw [tokens, List.foldlM_cons, State.step, State.enter, Option.bind_eq_bind, Option.bind_some]
    cases members with
    | nil => rfl
    | cons member rest => exact foldlM_memberTokens ih (List.cons_ne_nil _ _) [] around

theorem ofTokens?_tokens {value : Json} (legible : value.Legible) :
    ofTokens? value.tokens = some value := by
  rw [ofTokens?, foldlM_tokens legible]
  rfl

/-! ## Writing without space -/

/-- A comma is written after a part unless it is the last one. -/
theorem Cuts.append_separated {cs more : List Char} {tokens further : List Token} {last : Bool}
    (cuts : Cuts cs tokens) (cuts' : Cuts more further) (ends : last = true → EndsWord more) :
    Cuts (cs ++ ((if last then "" else ",").toList ++ more))
      (tokens ++ ((if last then [] else [.comma]) ++ further)) := by
  cases last with
  | true => exact cuts.append cuts' (ends rfl)
  | false => exact cuts.append (.cons_punctuation rfl cuts') (endsWord_cons (by decide) _)

/-- Nothing is written after the last part. -/
theorem endsWord_of_last {α : Type} {write : List α → String} (stops : write [] = "")
    {parts : List α} (last : parts.isEmpty = true) : EndsWord (write parts).toList := by
  rw [List.isEmpty_iff.mp last, stops]
  exact endsWord_nil

theorem cuts_compactItems {items : List Json}
    (inside : ∀ item ∈ items, Cuts item.compact.toList item.tokens) :
    Cuts (compactItems items).toList (itemTokens items) := by
  induction items with
  | nil => exact .nil
  | cons item rest ih =>
    have first := inside item List.mem_cons_self
    have others := ih fun item mem => inside item (List.mem_cons_of_mem _ mem)
    rw [compactItems, itemTokens, String.toList_append, String.toList_append, List.append_assoc]
    exact first.append_separated others (endsWord_of_last rfl)

theorem cuts_compactMembers {members : List (String × Json)}
    (inside : ∀ member ∈ members, Cuts member.2.compact.toList member.2.tokens) :
    Cuts (compactMembers members).toList (memberTokens members) := by
  induction members with
  | nil => exact .nil
  | cons member rest ih =>
    rcases member with ⟨key, value⟩
    have first := inside (key, value) List.mem_cons_self
    have others := ih fun member mem => inside member (List.mem_cons_of_mem _ mem)
    rw [compactMembers, memberTokens]
    simp only [String.toList_append, List.append_assoc]
    refine (Cuts.string key).append (.cons_punctuation rfl ?_) (endsWord_cons (by decide) _)
    exact first.append_separated others (endsWord_of_last rfl)

theorem cuts_compact {value : Json} (legible : value.Legible) :
    Cuts value.compact.toList value.tokens := by
  induction legible with
  | null => exact .word rfl (by decide)
  | bool value =>
    cases value with
    | false => exact .word rfl (by decide)
    | true => exact .word rfl (by decide)
  | @number literal spelled =>
    have known := word?_of_isNumber spelled
    rw [String.ofList_toList] at known
    exact .word known (List.all_eq_true.mpr (isWordChar_of_isNumber spelled))
  | string text => exact .string text
  | array inside ih =>
    rw [compact, tokens, String.toList_append, String.toList_append, List.append_assoc]
    refine .cons_punctuation rfl ((cuts_compactItems ih).append ?_ ?_)
    · exact .cons_punctuation rfl .nil
    · exact endsWord_cons (by decide) _
  | object inside ih =>
    rw [compact, tokens, String.toList_append, String.toList_append, List.append_assoc]
    refine .cons_punctuation rfl ((cuts_compactMembers ih).append ?_ ?_)
    · exact .cons_punctuation rfl .nil
    · exact endsWord_cons (by decide) _

/-- A legible value is read back from its compact form. -/
theorem parse?_compact {value : Json} (legible : value.Legible) :
    parse? value.compact = some value := by
  rw [parse?, (cuts_compact legible).tokens?, Option.bind_some, ofTokens?_tokens legible]

end Json
end CodeAssistant
