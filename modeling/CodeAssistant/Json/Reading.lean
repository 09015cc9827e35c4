import CodeAssistant.Json.Token

namespace CodeAssistant
namespace Json

/-!
# Reading JSON text

The tokens are taken one at a time.  What has been read so far is the list of the values that are
still open, innermost first, together with what may come next.  No depth is too great for it: an
open bracket adds a frame, and nothing is recursive.
-/

/-- The members of an object so far, latest first; nothing once a key denotes no text. -/
abbrev Members := Option (List (String × Json))

namespace Members

/-- The members with one more. -/
def add (members : Members) (key : Option String) (value : Json) : Members :=
  match members, key with
  | some before, some key => some ((key, value) :: before)
  | _, _ => none

/-- The object with these members. -/
def close : Members → Json
  | some members => .object members.reverse
  | none => .unreadable

end Members

/-- What encloses a value: the earlier items of an array, latest first, or the earlier members of an
object and the key of the value. -/
inductive Frame where
  | item (before : List Json)
  | member (before : Members) (key : Option String)

/-- What may come next, and what encloses it. -/
inductive State where
  /-- A value. -/
  | wantValue (around : List Frame)
  /-- The first item of an array or its end. -/
  | wantItem (around : List Frame)
  /-- The first key of an object or its end. -/
  | wantFirstKey (around : List Frame)
  /-- A further key. -/
  | wantKey (before : Members) (around : List Frame)
  /-- The colon after a key. -/
  | wantColon (before : Members) (key : Option String) (around : List Frame)
  /-- A comma or the end of what encloses the value just read. -/
  | complete (value : Json) (around : List Frame)

namespace State

/-- The state after the first token of a value. -/
def enter (around : List Frame) : Token → Option State
  | .scalar value => some (.complete value around)
  | .string (some text) => some (.complete (.string text) around)
  | .string none => some (.complete .unreadable around)
  | .openArray => some (.wantItem around)
  | .openObject => some (.wantFirstKey around)
  | _ => none

/-- The state after one more token, if the token may stand there. -/
def step : State → Token → Option State
  | .wantValue around, token => enter around token
  | .wantItem around, .closeArray => some (.complete (.array []) around)
  | .wantItem around, token => enter (.item [] :: around) token
  | .wantFirstKey around, .closeObject => some (.complete (.object []) around)
  | .wantFirstKey around, .string key => some (.wantColon (some []) key around)
  | .wantKey before around, .string key => some (.wantColon before key around)
  | .wantColon before key around, .colon => some (.wantValue (.member before key :: around))
  | .complete value (.item before :: around), .comma =>
    some (.wantValue (.item (value :: before) :: around))
  | .complete value (.item before :: around), .closeArray =>
    some (.complete (.array (value :: before).reverse) around)
  | .complete value (.member before key :: around), .comma =>
    some (.wantKey (before.add key value) around)
  | .complete value (.member before key :: around), .closeObject =>
    some (.complete (before.add key value).close around)
  | _, _ => none

/-- The value, if it is complete and nothing encloses it. -/
def result? : State → Option Json
  | .complete value [] => some value
  | _ => none

end State

/-- The value that the tokens spell. -/
def ofTokens? (tokens : List Token) : Option Json :=
  (tokens.foldlM State.step (.wantValue [])).bind State.result?

/-- The value that the text spells: exactly one value with nothing but space around it. -/
def parse? (text : String) : Option Json :=
  (tokens? text.toList).bind ofTokens?

end Json
end CodeAssistant
