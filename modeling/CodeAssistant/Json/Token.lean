import CodeAssistant.Json.Value

namespace CodeAssistant
namespace Json

/-!
# Tokens of JSON text

The text is cut into brackets, commas, colons, strings, and words.  A word is a maximal run of the
characters that numbers and the three constants are made of.  Taking the maximal run loses nothing:
two words never follow each other in a well-formed text without a separator between them.

Blank space between tokens is space, tab, line feed and carriage return only.
-/

/-- A token.  A string that denotes no text has no contents. -/
inductive Token where
  | openArray | closeArray | openObject | closeObject | comma | colon
  | scalar (value : Json)
  | string (text : Option String)

/-- Whether the character may stand between tokens. -/
def isSpace (c : Char) : Bool :=
  c == ' ' || c == '\t' || c == '\n' || c == '\r'

/-- The token that the character is by itself. -/
def punctuation? : Char → Option Token
  | '[' => some .openArray
  | ']' => some .closeArray
  | '\x7b' => some .openObject
  | '\x7d' => some .closeObject
  | ',' => some .comma
  | ':' => some .colon
  | _ => none

/-! ## Words -/

/-- Whether the character can be part of a number or of a constant. -/
def isWordChar (c : Char) : Bool :=
  c.isAlphanum || c == '+' || c == '-' || c == '.'

/-- Whether the text is a run of digits with at least one digit. -/
def isDigits (cs : List Char) : Bool :=
  !cs.isEmpty && cs.all Char.isDigit

/-- Whether the digits are the whole part of a number: no zero precedes another digit. -/
def isWholePart (cs : List Char) : Bool :=
  isDigits cs && (cs.head? != some '0' || cs.length == 1)

/-- Whether the text is nothing or an exponent. -/
def isExponent : List Char → Bool
  | [] => true
  | mark :: rest =>
    (mark == 'e' || mark == 'E') &&
      match rest with
      | '+' :: digits => isDigits digits
      | '-' :: digits => isDigits digits
      | digits => isDigits digits

/-- Whether the text is what may follow the whole part of a number. -/
def isFraction : List Char → Bool
  | '.' :: rest =>
    !(rest.takeWhile Char.isDigit).isEmpty && isExponent (rest.dropWhile Char.isDigit)
  | rest => isExponent rest

/-- Whether the text is a number without a sign. -/
def isUnsigned (cs : List Char) : Bool :=
  isWholePart (cs.takeWhile Char.isDigit) && isFraction (cs.dropWhile Char.isDigit)

/-- Whether the text is a number. -/
def isNumber : List Char → Bool
  | '-' :: rest => isUnsigned rest
  | cs => isUnsigned cs

/-- The value of a word. -/
def word? (cs : List Char) : Option Json :=
  if cs = ['n', 'u', 'l', 'l'] then some .null
  else if cs = ['t', 'r', 'u', 'e'] then some (.bool true)
  else if cs = ['f', 'a', 'l', 's', 'e'] then some (.bool false)
  else if isNumber cs then some (.number (String.ofList cs))
  else none

/-! ## Strings -/

/-- A part of a string: a character, or the half of a surrogate pair that an escape names. -/
inductive Piece where
  | char (c : Char)
  | half (code : Nat)

/-- The value of a hexadecimal digit of either case. -/
def hexValue? (c : Char) : Option Nat :=
  if '0' ≤ c ∧ c ≤ '9' then some (c.toNat - 48)
  else if 'a' ≤ c ∧ c ≤ 'f' then some (c.toNat - 87)
  else if 'A' ≤ c ∧ c ≤ 'F' then some (c.toNat - 55)
  else none

/-- The number that four hexadecimal digits denote. -/
def hexCode? (a b c d : Char) : Option Nat := do
  let a ← hexValue? a
  let b ← hexValue? b
  let c ← hexValue? c
  let d ← hexValue? d
  return ((a * 16 + b) * 16 + c) * 16 + d

/-- The piece that a numeric escape stands for. -/
def Piece.ofCode (code : Nat) : Piece :=
  if 0xD800 ≤ code ∧ code < 0xE000 then .half code else .char (Char.ofNat code)

/-- The character that a short escape stands for. -/
def shortEscape? : Char → Option Char
  | '"' => some '"'
  | '\\' => some '\\'
  | '/' => some '/'
  | 'b' => some '\x08'
  | 'f' => some '\x0c'
  | 'n' => some '\n'
  | 'r' => some '\r'
  | 't' => some '\t'
  | _ => none

/-- The rest of a string whose opening quotation mark has been passed: its pieces after those in
`before`, which is given backwards, and the text after the closing mark.  Control characters must be
escaped. -/
def stringRest (before : List Piece) : List Char → Option (List Piece × List Char)
  | [] => none
  | '"' :: rest => some (before.reverse, rest)
  | '\\' :: 'u' :: a :: b :: c :: d :: rest =>
    match hexCode? a b c d with
    | some code => stringRest (Piece.ofCode code :: before) rest
    | none => none
  | '\\' :: e :: rest =>
    match shortEscape? e with
    | some c => stringRest (.char c :: before) rest
    | none => none
  | c :: rest =>
    if c.toNat < 0x20 || c == '\\' then none else stringRest (.char c :: before) rest

/-- Reading the rest of a string uses up some of the text. -/
theorem length_of_stringRest {before pieces : List Piece} {cs rest : List Char}
    (h : stringRest before cs = some (pieces, rest)) : rest.length < cs.length := by
  fun_induction stringRest before cs with
  | case1 => simp at h
  | case2 =>
    simp only [Option.some.injEq, Prod.mk.injEq] at h
    simp [h.2]
  | case3 before a b c d tail code _ ih =>
    have := ih h
    simp only [List.length_cons]
    omega
  | case4 => simp at h
  | case5 before e tail _ c _ ih =>
    have := ih h
    simp only [List.length_cons]
    omega
  | case6 => simp at h
  | case7 => simp at h
  | case8 before c tail _ _ _ _ ih =>
    have := ih h
    simp only [List.length_cons]
    omega

/-- The text that the pieces denote, if the halves among them form pairs. -/
def textOfPieces? : List Piece → Option (List Char)
  | [] => some []
  | .char c :: rest => (textOfPieces? rest).map (c :: ·)
  | .half high :: .half low :: rest =>
    if high < 0xDC00 ∧ 0xDC00 ≤ low then
      let code := 0x10000 + (high - 0xD800) * 0x400 + (low - 0xDC00)
      (textOfPieces? rest).map (Char.ofNat code :: ·)
    else none
  | .half _ :: _ => none

/-! ## The whole text -/

/-- The tokens of a text, if it can be cut into tokens. -/
def tokens? (cs : List Char) : Option (List Token) :=
  match cs with
  | [] => some []
  | c :: rest =>
    if isSpace c then tokens? rest
    else if c = '"' then
      match _h : stringRest [] rest with
      | some (pieces, after) =>
        (tokens? after).map (.string ((textOfPieces? pieces).map String.ofList) :: ·)
      | none => none
    else
      match punctuation? c with
      | some token => (tokens? rest).map (token :: ·)
      | none =>
        if isWordChar c then
          match word? (c :: rest.takeWhile isWordChar) with
          | some value => (tokens? (rest.dropWhile isWordChar)).map (.scalar value :: ·)
          | none => none
        else none
termination_by cs.length
decreasing_by
  · simp
  · have := length_of_stringRest _h
    simp only [List.length_cons]
    omega
  · simp
  · have := (List.dropWhile_sublist (l := rest) isWordChar).length_le
    simp only [List.length_cons]
    omega

end Json
end CodeAssistant
