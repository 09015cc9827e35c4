import CodeAssistant.Number.Decimal

namespace CodeAssistant

/-!
# JSON values

Objects keep their members in the order of the text, repeated keys included: which keys matter, and
whether repetition is a fault, is for the reader of a record to say.  Numbers keep their literal,
because a field that wants an integer refuses a fraction or an exponent whatever its value.

An escape sequence can name one half of a surrogate pair without the other.  A string with such an
escape is well-formed but denotes no text, and so does an object with such a key.  Both become
`unreadable`, which is skipped like any other value where nobody asks for it.
-/

/-- A JSON value. -/
inductive Json where
  | null
  | bool (value : Bool)
  | number (literal : String)
  | string (text : String)
  | unreadable
  | array (items : List Json)
  | object (members : List (String × Json))
  deriving Inhabited

namespace Json

/-- A whole number. -/
def nat (n : Nat) : Json :=
  .number (decimal n)

/-- A text, or null where there is none. -/
def textOrNull : Option String → Json
  | some text => .string text
  | none => .null

/-- A list of texts. -/
def texts (items : List String) : Json :=
  .array (items.map .string)

/-- The first member with the given key. -/
def member? (key : String) : Json → Option Json
  | .object members => members.lookup key
  | _ => none

end Json

end CodeAssistant
