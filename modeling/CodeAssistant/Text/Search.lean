namespace CodeAssistant
namespace Text

/-!
# Searching in a text

Occurrences of a word are counted from left to right, and the characters of one occurrence are not
used again for the next one.  The count is one pass over the text that remembers how many characters
still belong to the occurrence found last.
-/

/-- Occurrences of `word` in a text whose first `used` characters belong to an earlier one. -/
def occurrencesFrom (word : List Char) (used : Nat) : List Char → Nat
  | [] => 0
  | c :: rest =>
    match used with
    | left + 1 => occurrencesFrom word left rest
    | 0 =>
      if word.isPrefixOf (c :: rest) then 1 + occurrencesFrom word (word.length - 1) rest
      else occurrencesFrom word 0 rest

/-- How often the non-empty `word` occurs in the text without overlaps, counted from the left. -/
def occurrences (word text : List Char) : Nat :=
  occurrencesFrom word 0 text

/-- Whether `word` occurs somewhere in the text. -/
def occursIn (word : List Char) : List Char → Bool
  | [] => word.isEmpty
  | c :: rest => word.isPrefixOf (c :: rest) || occursIn word rest

theorem occursIn_iff {word text : List Char} :
    occursIn word text = true ↔ word <:+: text := by
  induction text with
  | nil => simp [occursIn]
  | cons c rest ih =>
    rw [occursIn, Bool.or_eq_true, ih, List.isPrefixOf_iff_prefix, List.infix_cons_iff]

/-- The text with every occurrence of a character replaced by a word. -/
def replaceChar (c : Char) (word : List Char) (text : List Char) : List Char :=
  text.flatMap (fun x => if x = c then word else [x])

/-- The pieces of a text, of which `piece` is the current one backwards, between its separators. -/
def piecesFrom (separator : Char) (piece : List Char) : List Char → List (List Char)
  | [] => [piece.reverse]
  | c :: rest =>
    if c = separator then piece.reverse :: piecesFrom separator [] rest
    else piecesFrom separator (c :: piece) rest

/-- The pieces of a text between the separators: one more than there are separators. -/
def pieces (separator : Char) (text : List Char) : List (List Char) :=
  piecesFrom separator [] text

/-- The text without the characters at its end that satisfy `p`. -/
def dropEndWhile (p : Char → Bool) (text : List Char) : List Char :=
  (text.reverse.dropWhile p).reverse

/-- The words put one after the other with `separator` between them. -/
def join (separator : String) (words : List String) : String :=
  separator.intercalate words

end Text
end CodeAssistant
