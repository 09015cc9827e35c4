import CodeAssistant.Text.Search

namespace CodeAssistant
namespace Http

/-!
# Headers

A header is a name and a value.  Names are compared without regard to case.  A value is a single
line, and the spaces and tabs around it get lost on the way to the receiver.
-/

/-- A header: its name and its value. -/
abbrev Header := String × String

/-- The name of a header, in lower case. -/
def headerName (name : String) : String :=
  String.ofList (name.toList.map Char.toLower)

/-- Whether the text may be the value of a header. -/
def isHeaderValue (s : String) : Bool :=
  s.toList.all fun c => c == '\t' || (0x20 ≤ c.toNat && c.toNat ≠ 0x7F)

/-- Whether the character gets lost at the ends of a value. -/
def isGap (c : Char) : Bool :=
  c == ' ' || c == '\t'

/-- The value of a header as the receiver sees it. -/
def receivedValue (s : String) : String :=
  String.ofList (Text.dropEndWhile isGap (s.toList.dropWhile isGap))

/-- The value of the first header whose name, in lower case, is the given one. -/
def headerValue? (headers : List Header) (name : String) : Option String :=
  (headers.find? fun header => headerName header.1 == name).map Prod.snd

end Http
end CodeAssistant
