import CodeAssistant.Proofs.Json.Reading
import CodeAssistant.Json.Record
import CodeAssistant.Proofs.Number.Numerals
import Mathlib.Data.List.TakeWhile

namespace CodeAssistant
namespace Json

/-!
# The readable form is read back

The readable form differs from the compact one by line breaks and spaces between the tokens.  Space
before a text does not change its tokens (`Cuts.space_append`), and each break stands where a token
has just ended, so the two forms are cut alike at every level of indentation (`cuts_prettyAt`).
-/

/-! ## Space between tokens -/

theorem Cuts.space_append {space cs : List Char} {tokens : List Token}
    (blank : ∀ c ∈ space, isSpace c = true) (cuts : Cuts cs tokens) :
    Cuts (space ++ cs) tokens := by
  intro rest ends
  induction space with
  | nil => exact cuts rest ends
  | cons c space ih =>
    rw [List.forall_mem_cons] at blank
    rw [List.cons_append, List.cons_append, Json.tokens?, if_pos blank.1]
    exact ih blank.2

theorem toList_newLine (level : Nat) :
    (newLine level).toList = '\n' :: List.replicate (2 * level) ' ' :=
  String.toList_ofList

theorem isSpace_of_mem_newLine (level : Nat) : ∀ c ∈ (newLine level).toList, isSpace c = true := by
  intro c member
  rw [toList_newLine, List.mem_cons] at member
  rcases member with rfl | indentation
  · decide
  · rw [List.eq_of_mem_replicate indentation]
    decide

theorem endsWord_newLine_append (level : Nat) (cs : List Char) :
    EndsWord ((newLine level).toList ++ cs) := by
  rw [toList_newLine, List.cons_append]
  exact endsWord_cons (by decide) _

/-! ## Writing on lines -/

theorem cuts_prettyItems {items : List Json} (level : Nat)
    (inside : ∀ item ∈ items, Cuts (prettyAt level item).toList item.tokens) :
    Cuts (prettyItems level items).toList (itemTokens items) := by
  induction items with
  | nil => exact .nil
  | cons item rest ih =>
    rw [List.forall_mem_cons] at inside
    rw [prettyItems, itemTokens]
    simp only [String.toList_append, List.append_assoc]
    apply Cuts.space_append (isSpace_of_mem_newLine level)
    exact inside.1.append_separated (ih inside.2) (endsWord_of_last rfl)

theorem cuts_prettyMembers {members : List (String × Json)} (level : Nat)
    (inside : ∀ member ∈ members, Cuts (prettyAt level member.2).toList member.2.tokens) :
    Cuts (prettyMembers level members).toList (memberTokens members) := by
  induction members with
  | nil => exact .nil
  | cons member rest ih =>
    rcases member with ⟨key, value⟩
    have gap : ∀ c ∈ [' '], isSpace c = true := List.all_eq_true.mp rfl
    rw [List.forall_mem_cons] at inside
    rw [prettyMembers, memberTokens]
    simp only [String.toList_append, List.append_assoc]
    apply Cuts.space_append (isSpace_of_mem_newLine level)
    refine (Cuts.string key).append (.cons_punctuation rfl ?_) (endsWord_cons (by decide) _)
    apply Cuts.space_append gap
    exact inside.1.append_separated (ih inside.2) (endsWord_of_last rfl)

/-- What stands between brackets may be followed by a line break, which opens no token. -/
theorem Cuts.enclosed {opening closing : Char} {first last : Token} {cs : List Char}
    {tokens : List Token} (opens : punctuation? opening = some first)
    (closes : punctuation? closing = some last) (level : Nat) (cuts : Cuts cs tokens) :
    Cuts ([opening] ++ (cs ++ ((newLine level).toList ++ [closing])))
      (first :: (tokens ++ [last])) := by
  have ends := endsWord_newLine_append level [closing]
  apply Cuts.cons_punctuation opens
  apply cuts.append _ ends
  apply Cuts.space_append (isSpace_of_mem_newLine level)
  exact .cons_punctuation closes .nil

theorem cuts_prettyAt {value : Json} (legible : value.Legible) (level : Nat) :
    Cuts (prettyAt level value).toList value.tokens := by
  induction legible generalizing level with
  | null => simpa only [prettyAt, compact] using cuts_compact .null
  | bool value =>
    have unspaced := cuts_compact (.bool value)
    cases value <;> simpa only [prettyAt, compact] using unspaced
  | number spelled => simpa only [prettyAt, compact] using cuts_compact (.number spelled)
  | string text => simpa only [prettyAt, compact] using cuts_compact (.string text)
  | @array items inside ih =>
    rw [prettyAt, tokens]
    cases items with
    | nil =>
      rw [List.isEmpty_nil, if_pos rfl]
      exact .cons_punctuation rfl (.cons_punctuation rfl .nil)
    | cons item rest =>
      have items := cuts_prettyItems (level + 1) fun item member => ih item member (level + 1)
      rw [List.isEmpty_cons, if_neg (by decide)]
      simp only [String.toList_append, List.append_assoc]
      exact .enclosed rfl rfl level items
  | @object members inside ih =>
    rw [prettyAt, tokens]
    cases members with
    | nil =>
      rw [List.isEmpty_nil, if_pos rfl]
      exact .cons_punctuation rfl (.cons_punctuation rfl .nil)
    | cons member rest =>
      have members := cuts_prettyMembers (level + 1) fun member found =>
        ih member found (level + 1)
      rw [List.isEmpty_cons, if_neg (by decide)]
      simp only [String.toList_append, List.append_assoc]
      exact .enclosed rfl rfl level members

/-- A legible value is read back from its readable form. -/
theorem parse?_pretty {value : Json} (legible : value.Legible) :
    parse? value.pretty = some value := by
  rw [parse?, pretty, (cuts_prettyAt legible 0).tokens?, Option.bind_some,
    ofTokens?_tokens legible]

/-! ## Whole numbers -/

theorem isNumber_of_isWholePart {cs : List Char} (whole : isWholePart cs = true) :
    isNumber cs = true := by
  have digits : ∀ c ∈ cs, c.isDigit = true := by
    rw [isWholePart, isDigits, Bool.and_eq_true, Bool.and_eq_true] at whole
    exact List.all_eq_true.mp whole.1.2
  have unsigned : isUnsigned cs = true := by
    rw [isUnsigned, List.takeWhile_eq_self_iff.mpr digits, whole,
      List.dropWhile_eq_nil_iff.mpr digits]
    rfl
  unfold isNumber
  split
  · next rest => exact absurd (digits '-' List.mem_cons_self) (by decide)
  · exact unsigned

theorem isWholePart_decimal (n : Nat) : isWholePart (decimal n).toList = true := by
  cases n with
  | zero => rfl
  | succ n =>
    have digits : isDigits (decimal (n + 1)).toList = true := by
      rw [isDigits, List.all_eq_true.mpr fun _ => isDigit_of_mem_decimal, toList_decimal]
      simp
    rw [isWholePart, digits, toList_decimal]
    simp [head?_toDigits (Nat.succ_pos n)]

theorem Legible.nat (n : Nat) : Legible (.nat n) :=
  .number (isNumber_of_isWholePart (isWholePart_decimal n))

theorem byte?_nat (n : UInt8) : byte? (.nat n.toNat) = some n := by
  rw [byte?, nat, nat?, digitsValue?_decimal, Option.bind_some, if_pos n.toNat_lt,
    UInt8.ofNat_toNat]

end Json
end CodeAssistant
