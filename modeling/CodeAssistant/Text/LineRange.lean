import CodeAssistant.Text.Line

namespace CodeAssistant
namespace Text

/-!
# Lines as ranges of bytes

A text is stored as bytes, one to four for a character, and a line can be handed out as a range of
them.  The ranges come from one pass over the characters, each with the byte at which it begins.  A
range is cut out of the text only if its ends are in order, inside the text and between characters.
-/

/-- The bytes of a text from `start` up to `stop`. -/
structure ByteRange where
  start : Nat
  stop : Nat
  deriving DecidableEq

namespace ByteRange

/-- The range can be cut out of the text. -/
structure FitsIn (range : ByteRange) (s : String) : Prop where
  ordered : range.start ≤ range.stop
  inside : range.stop ≤ s.utf8ByteSize
  startsCharacter : String.Pos.Raw.IsValid s ⟨range.start⟩
  endsCharacter : String.Pos.Raw.IsValid s ⟨range.stop⟩

instance (range : ByteRange) (s : String) : Decidable (range.FitsIn s) :=
  decidable_of_iff (range.start ≤ range.stop ∧ range.stop ≤ s.utf8ByteSize ∧
      String.Pos.Raw.IsValid s ⟨range.start⟩ ∧ String.Pos.Raw.IsValid s ⟨range.stop⟩)
    ⟨fun h => ⟨h.1, h.2.1, h.2.2.1, h.2.2.2⟩, fun h => ⟨h.1, h.2, h.3, h.4⟩⟩

/-- The text in the range, if the range can be cut out. -/
def cut? (s : String) (range : ByteRange) : Option String :=
  if fits : range.FitsIn s then
    some (String.extract (s.pos ⟨range.start⟩ fits.startsCharacter)
      (s.pos ⟨range.stop⟩ fits.endsCharacter))
  else none

end ByteRange

/-- The characters of a text, each with the byte at which it begins; the text begins at `index`. -/
def indexedFrom (index : Nat) : List Char → List (Nat × Char)
  | [] => []
  | c :: rest => (index, c) :: indexedFrom (index + c.utf8Size) rest

/-- The ranges of the lines that end among the given characters, where the first of these lines
begins at `start` and the text has `size` bytes. -/
def lineRangesFrom (size start : Nat) : List (Nat × Char) → List ByteRange
  | [] => if start < size then [⟨start, size⟩] else []
  | (index, '\r') :: (_, '\n') :: rest =>
    ⟨start, index⟩ :: lineRangesFrom size (index + '\r'.utf8Size + 1) rest
  | (index, c) :: rest =>
    if isLineBreak c then ⟨start, index⟩ :: lineRangesFrom size (index + c.utf8Size) rest
    else lineRangesFrom size start rest

/-- The ranges of the lines of a text. -/
def lineRanges (s : String) : List ByteRange :=
  lineRangesFrom s.utf8ByteSize 0 (indexedFrom 0 s.toList)

end Text
end CodeAssistant
