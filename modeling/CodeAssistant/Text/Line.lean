import CodeAssistant.Text.Blank

namespace CodeAssistant
namespace Text

/-!
# Lines of a text

Two notions of line are in use.  Submitted source text is cut at every character that some language
or terminal takes for a line end (`splitLines`); the lines that are left after trimming and dropping
the empty ones are the *significant* lines, on which code is scored.  Quoted text is cut at line
feeds only (`newlineLines`).

In both, the end of the text closes the last line, and a break at the very end opens no further one.
-/

/-- Whether the character ends a line of source text by itself. -/
def isLineBreak (c : Char) : Bool :=
  let n := c.toNat
  (0xA ≤ n && n ≤ 0xD) || (0x1C ≤ n && n ≤ 0x1E) || n == 0x85 || n == 0x2028 || n == 0x2029

/-- The lines of a text that continues `line`, which is given backwards.  A carriage return and the
line feed after it are one break. -/
def linesFrom (line : List Char) : List Char → List (List Char)
  | [] => if line.isEmpty then [] else [line.reverse]
  | '\r' :: '\n' :: rest => line.reverse :: linesFrom [] rest
  | c :: rest =>
    if isLineBreak c then line.reverse :: linesFrom [] rest else linesFrom (c :: line) rest

/-- The text cut at every line break. -/
def splitLines (cs : List Char) : List (List Char) :=
  linesFrom [] cs

/-- The trimmed lines of a text that are not empty, in order. -/
def significantChars (cs : List Char) : List (List Char) :=
  ((splitLines cs).map trimChars).filter (fun line => !line.isEmpty)

/-- The trimmed lines of a text that are not empty, in order. -/
def significantLines (s : String) : List String :=
  (significantChars s.toList).map String.ofList

/-- The line whose characters are given backwards, without the carriage return that belongs to the
line feed after it. -/
def closeLine : List Char → List Char
  | '\r' :: line => line.reverse
  | line => line.reverse

/-- The lines, at line feeds only, of a text that continues `line`, which is given backwards. -/
def newlineLinesFrom (line : List Char) : List Char → List (List Char)
  | [] => if line.isEmpty then [] else [line.reverse]
  | '\n' :: rest => closeLine line :: newlineLinesFrom [] rest
  | c :: rest => newlineLinesFrom (c :: line) rest

/-- The text cut at line feeds, each with or without a carriage return before it. -/
def newlineLines (s : String) : List String :=
  (newlineLinesFrom [] s.toList).map String.ofList

end Text
end CodeAssistant
