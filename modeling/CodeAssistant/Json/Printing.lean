import CodeAssistant.Json.Value

namespace CodeAssistant
namespace Json

/-!
# Writing JSON text

The compact form has no space at all.  The readable form puts every item and member on a line of its
own, indented by two spaces for each level, and leaves empty arrays and objects closed up.  Strings
are the same in both: quotation marks, backslashes and control characters are escaped, and every
other character stands for itself.
-/

/-- A digit in base sixteen, in lower case. -/
def hexDigit (n : Nat) : Char :=
  Nat.digitChar n

/-- One character as it stands in a string. -/
def escapeChar (c : Char) : List Char :=
  if c = '"' then ['\\', '"']
  else if c = '\\' then ['\\', '\\']
  else if c = '\x08' then ['\\', 'b']
  else if c = '\x0c' then ['\\', 'f']
  else if c = '\n' then ['\\', 'n']
  else if c = '\r' then ['\\', 'r']
  else if c = '\t' then ['\\', 't']
  else if c.toNat < 0x20 then
    ['\\', 'u', '0', '0', hexDigit (c.toNat / 16), hexDigit (c.toNat % 16)]
  else [c]

/-- The string as it is written. -/
def stringLiteral (text : String) : String :=
  String.ofList ('"' :: text.toList.flatMap escapeChar ++ ['"'])

mutual

/-- The value without any space. -/
def compact : Json → String
  | .null => "null"
  | .bool true => "true"
  | .bool false => "false"
  | .number literal => literal
  | .string text => stringLiteral text
  | .unreadable => "null"
  | .array items => "[" ++ compactItems items ++ "]"
  | .object members => "\x7b" ++ compactMembers members ++ "\x7d"

/-- The items with commas between them. -/
def compactItems : List Json → String
  | [] => ""
  | item :: rest => compact item ++ (if rest.isEmpty then "" else ",") ++ compactItems rest

/-- The members with commas between them. -/
def compactMembers : List (String × Json) → String
  | [] => ""
  | (key, value) :: rest =>
    stringLiteral key ++ ":" ++ compact value ++ (if rest.isEmpty then "" else ",") ++
      compactMembers rest

end

/-- The start of a line at the given level. -/
def newLine (level : Nat) : String :=
  String.ofList ('\n' :: List.replicate (2 * level) ' ')

mutual

/-- The value with one line for every item and member, the lines inside it at `level + 1`. -/
def prettyAt (level : Nat) : Json → String
  | .null => "null"
  | .bool true => "true"
  | .bool false => "false"
  | .number literal => literal
  | .string text => stringLiteral text
  | .unreadable => "null"
  | .array items =>
    if items.isEmpty then "[]"
    else "[" ++ prettyItems (level + 1) items ++ newLine level ++ "]"
  | .object members =>
    if members.isEmpty then "\x7b\x7d"
    else "\x7b" ++ prettyMembers (level + 1) members ++ newLine level ++ "\x7d"

/-- The items, each on a line of its own. -/
def prettyItems (level : Nat) : List Json → String
  | [] => ""
  | item :: rest =>
    newLine level ++ prettyAt level item ++ (if rest.isEmpty then "" else ",") ++
      prettyItems level rest

/-- The members, each on a line of its own. -/
def prettyMembers (level : Nat) : List (String × Json) → String
  | [] => ""
  | (key, value) :: rest =>
    newLine level ++ stringLiteral key ++ ": " ++ prettyAt level value ++
      (if rest.isEmpty then "" else ",") ++ prettyMembers level rest

end

/-- The value in the readable form. -/
def pretty (value : Json) : String :=
  prettyAt 0 value

end Json
end CodeAssistant
