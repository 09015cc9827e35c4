import CodeAssistant.Json.Printing
import CodeAssistant.Json.Token
import Mathlib.Tactic.SplitIfs

namespace CodeAssistant
namespace Json

/-!
# What a text is cut into

A text that is written down is cut into the tokens that were meant, whatever follows it, with one
exception: a word at its end would grow if another character of a word followed.  `Cuts` leaves this
one case out, and is closed under everything that a writer does (`Cuts.append`,
`Cuts.cons_punctuation`), with strings and words as the smallest parts.
-/

/-- The text does not go on with a character of a word. -/
def EndsWord (cs : List Char) : Prop :=
  ∀ c ∈ cs.head?, isWordChar c = false

theorem endsWord_nil : EndsWord [] := by
  intro c found
  cases found

theorem endsWord_cons {c : Char} (other : isWordChar c = false) (cs : List Char) :
    EndsWord (c :: cs) := by
  intro first found
  rcases Option.some.inj found with rfl
  exact other

theorem EndsWord.append {cs rest : List Char} (ends : EndsWord cs) (ends' : EndsWord rest) :
    EndsWord (cs ++ rest) := by
  cases cs with
  | nil => exact ends'
  | cons c cs => exact ends

theorem plain_of_isWordChar {c : Char} (inside : isWordChar c = true) :
    isSpace c = false ∧ c ≠ '"' ∧ punctuation? c = none := by
  refine ⟨?_, ?_, ?_⟩
  · rw [Bool.eq_false_iff]
    intro space
    simp only [isSpace, Bool.or_eq_true, beq_iff_eq] at space
    rcases space with ((rfl | rfl) | rfl) | rfl
    all_goals exact absurd inside (by decide)
  · rintro rfl
    exact absurd inside (by decide)
  · unfold punctuation?
    split
    all_goals first
      | rfl
      | exact absurd inside (by decide)

/-- The text is cut into these tokens, and what follows it is not affected. -/
def Cuts (cs : List Char) (tokens : List Token) : Prop :=
  ∀ rest, EndsWord rest → tokens? (cs ++ rest) = (tokens? rest).map (tokens ++ ·)

theorem tokens?_nil : tokens? [] = some [] := by
  rw [tokens?]

theorem Cuts.tokens? {cs : List Char} {tokens : List Token} (cuts : Cuts cs tokens) :
    tokens? cs = some tokens := by
  have whole := cuts [] endsWord_nil
  rw [List.append_nil, tokens?_nil, Option.map_some, List.append_nil] at whole
  exact whole

namespace Cuts

variable {cs more : List Char} {tokens further : List Token}

theorem nil : Cuts [] [] := by
  intro rest ends
  simp

theorem append (cuts : Cuts cs tokens) (cuts' : Cuts more further) (ends : EndsWord more) :
    Cuts (cs ++ more) (tokens ++ further) := by
  intro rest ends'
  rw [List.append_assoc, cuts _ (ends.append ends'), cuts' _ ends', Option.map_map]
  congr 1
  funext after
  simp

theorem cons_punctuation {c : Char} {token : Token} (mark : punctuation? c = some token)
    (cuts : Cuts cs tokens) : Cuts (c :: cs) (token :: tokens) := by
  intro rest ends
  have ⟨visible, unquoted⟩ : isSpace c = false ∧ c ≠ '"' := by
    unfold punctuation? at mark
    split at mark
    all_goals first
      | exact ⟨by decide, by decide⟩
      | cases mark
  rw [List.cons_append, Json.tokens?, if_neg (by simp [visible]), if_neg unquoted, mark,
    cuts rest ends]
  dsimp only
  rw [Option.map_map]
  rfl

/-! ## Words -/

/-- A word is cut off whole. -/
theorem word {value : Json} (known : word? cs = some value) (inside : cs.all isWordChar = true) :
    Cuts cs [.scalar value] := by
  intro rest ends
  cases cs with
  | nil => cases known
  | cons c cs =>
    rw [List.all_cons, Bool.and_eq_true, List.all_eq_true] at inside
    rcases inside with ⟨first, others⟩
    -- Only here does it matter what follows: the scan must stop where the word ends.
    have stops : rest.takeWhile isWordChar = [] ∧ rest.dropWhile isWordChar = rest := by
      cases rest with
      | nil => exact ⟨rfl, rfl⟩
      | cons d rest => simp [ends d rfl]
    rcases plain_of_isWordChar first with ⟨visible, unquoted, unmarked⟩
    rw [List.cons_append, Json.tokens?, if_neg (by simp [visible]), if_neg unquoted, unmarked]
    dsimp only
    rw [if_pos first, List.takeWhile_append_of_pos others, List.dropWhile_append_of_pos others,
      stops.1, stops.2, List.append_nil, known]
    rfl

end Cuts

theorem isWordChar_of_isDigit {c : Char} (digit : c.isDigit = true) : isWordChar c = true := by
  simp [isWordChar, Char.isAlphanum, digit]

theorem isWordChar_of_isDigits {cs : List Char} (digits : isDigits cs = true) :
    ∀ c ∈ cs, isWordChar c = true := by
  rw [isDigits, Bool.and_eq_true, List.all_eq_true] at digits
  exact fun c mem => isWordChar_of_isDigit (digits.2 c mem)

theorem isWordChar_of_dropWhile {cs : List Char}
    (after : ∀ c ∈ cs.dropWhile Char.isDigit, isWordChar c = true) :
    ∀ c ∈ cs, isWordChar c = true := by
  intro c mem
  rw [← List.takeWhile_append_dropWhile (p := Char.isDigit) (l := cs), List.mem_append] at mem
  rcases mem with digit | other
  · exact isWordChar_of_isDigit (List.all_eq_true.mp List.all_takeWhile c digit)
  · exact after c other

theorem isWordChar_of_isExponent {cs : List Char} (exponent : isExponent cs = true) :
    ∀ c ∈ cs, isWordChar c = true := by
  cases cs with
  | nil => exact fun c mem => absurd mem List.not_mem_nil
  | cons mark rest =>
    unfold isExponent at exponent
    rw [Bool.and_eq_true, Bool.or_eq_true, beq_iff_eq, beq_iff_eq] at exponent
    rcases exponent with ⟨marked, digits⟩
    rw [List.forall_mem_cons]
    constructor
    · rcases marked with rfl | rfl
      all_goals decide
    · split at digits
      · exact List.forall_mem_cons.mpr ⟨by decide, isWordChar_of_isDigits digits⟩
      · exact List.forall_mem_cons.mpr ⟨by decide, isWordChar_of_isDigits digits⟩
      · exact isWordChar_of_isDigits digits

theorem isWordChar_of_isFraction {cs : List Char} (fraction : isFraction cs = true) :
    ∀ c ∈ cs, isWordChar c = true := by
  unfold isFraction at fraction
  split at fraction
  · next rest =>
    rw [Bool.and_eq_true] at fraction
    have digits := isWordChar_of_dropWhile (isWordChar_of_isExponent fraction.2)
    exact List.forall_mem_cons.mpr ⟨by decide, digits⟩
  · exact isWordChar_of_isExponent fraction

theorem isWordChar_of_isNumber {cs : List Char} (number : isNumber cs = true) :
    ∀ c ∈ cs, isWordChar c = true := by
  have unsigned : ∀ cs, isUnsigned cs = true → ∀ c ∈ cs, isWordChar c = true := by
    intro cs number
    rw [isUnsigned, Bool.and_eq_true] at number
    exact isWordChar_of_dropWhile (isWordChar_of_isFraction number.2)
  unfold isNumber at number
  split at number
  · exact List.forall_mem_cons.mpr ⟨by decide, unsigned _ number⟩
  · exact unsigned _ number

theorem word?_of_isNumber {cs : List Char} (number : isNumber cs = true) :
    word? cs = some (.number (String.ofList cs)) := by
  rw [word?, if_neg, if_neg, if_neg, if_pos number]
  all_goals
    rintro rfl
    exact absurd number (by decide)

/-! ## Strings -/

theorem hexCode?_of_control : ∀ code < 0x20,
    hexCode? '0' '0' (hexDigit (code / 16)) (hexDigit (code % 16)) = some code := by
  decide

/-- A character is read as it is written. -/
theorem stringRest_escapeChar (before : List Piece) (c : Char) (rest : List Char) :
    stringRest before (escapeChar c ++ rest) = stringRest (.char c :: before) rest := by
  unfold escapeChar
  split_ifs with quote backslash backspace formFeed lineFeed carriageReturn tab control
  · subst quote
    simp [stringRest, shortEscape?]
  · subst backslash
    simp [stringRest, shortEscape?]
  · subst backspace
    simp [stringRest, shortEscape?]
  · subst formFeed
    simp [stringRest, shortEscape?]
  · subst lineFeed
    simp [stringRest, shortEscape?]
  · subst carriageReturn
    simp [stringRest, shortEscape?]
  · subst tab
    simp [stringRest, shortEscape?]
  · have read := hexCode?_of_control c.toNat control
    have whole : Piece.ofCode c.toNat = .char c := by
      rw [Piece.ofCode, if_neg (by omega), Char.ofNat_toNat]
    simp [stringRest, read, whole]
  · simp [stringRest, backslash, control]

theorem stringRest_written (before : List Piece) (cs rest : List Char) :
    stringRest before (cs.flatMap escapeChar ++ '"' :: rest) =
      some (before.reverse ++ cs.map .char, rest) := by
  induction cs generalizing before with
  | nil => simp [stringRest]
  | cons c cs ih =>
    rw [List.flatMap_cons, List.append_assoc, stringRest_escapeChar, ih]
    simp

theorem textOfPieces?_chars (cs : List Char) : textOfPieces? (cs.map .char) = some cs := by
  induction cs with
  | nil => rfl
  | cons c cs ih => rw [List.map_cons, textOfPieces?, ih, Option.map_some]

/-- A string is cut off whole, whatever follows its closing quotation mark. -/
theorem Cuts.string (text : String) :
    Cuts (stringLiteral text).toList [.string (some text)] := by
  intro rest ends
  have read := stringRest_written [] text.toList rest
  rw [List.reverse_nil, List.nil_append] at read
  rw [stringLiteral, String.toList_ofList, List.cons_append, List.cons_append, List.append_assoc,
    List.singleton_append, Json.tokens?, if_neg (by decide), if_pos rfl]
  split
  · next pieces after found =>
    rw [read] at found
    cases found
    rw [textOfPieces?_chars, Option.map_some, String.ofList_toList]
    rfl
  · next refused =>
    rw [read] at refused
    cases refused

end Json
end CodeAssistant
