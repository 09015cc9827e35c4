import CodeAssistant.Text.Casing

namespace CodeAssistant
namespace Text

/-!
# Lower case

The lower case of a text is that of its characters, with one exception: a capital sigma that ends a
word becomes the final form `ς`.  It ends a word when a cased letter stands before it and none
stands after it, where case-ignorable characters (apostrophes, combining marks) are looked through
on both sides.  `lowerAfter` therefore carries the text already passed, nearest character first.
-/

/-- Whether the next character that is not case-ignorable is a cased letter. -/
def startsCased (cs : List Char) : Bool :=
  match cs.dropWhile isCaseIgnorable with
  | [] => false
  | c :: _ => isCased c

/-- The lower case of `c` between the text before it, read backwards, and the text after it. -/
def lowerBetween (before : List Char) (c : Char) (after : List Char) : List Char :=
  if c = 'Σ' then
    if startsCased before && !startsCased after then ['ς'] else ['σ']
  else lowerChar c

/-- The lower case of a text that follows `before`, which is given backwards. -/
def lowerAfter (before : List Char) : List Char → List Char
  | [] => []
  | c :: rest => lowerBetween before c rest ++ lowerAfter (c :: before) rest

/-- The lower case of a text. -/
def lowerChars (cs : List Char) : List Char :=
  lowerAfter [] cs

/-- The lower case of a text. -/
def lower (s : String) : String :=
  String.ofList (lowerChars s.toList)

@[simp]
theorem toList_lower (s : String) : (lower s).toList = lowerChars s.toList :=
  String.toList_ofList

end Text
end CodeAssistant
