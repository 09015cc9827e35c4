namespace CodeAssistant
namespace Http

/-!
# Media types

A media type is a type, a slash, a subtype, and parameters, all without regard to case.  What
follows the last plus sign of the subtype is its suffix, which names the syntax that the subtype is
built on.
-/

/-- A media type without its parameters; `suffix` is the part of the subtype after a plus sign. -/
structure MediaType where
  topLevel : String
  subtype : String
  suffix : Option String
  deriving DecidableEq

namespace MediaType

/-- Whether the character may stand in the name of a type or of a parameter. -/
def isTokenChar (c : Char) : Bool :=
  c.isAlphanum ||
    ['!', '#', '$', '%', '&', '\'', '+', '-', '.', '^', '_', '`', '|', '~'].contains c

/-- Whether the character may stand in a quoted value. -/
def isQuotedChar (c : Char) : Bool :=
  c == '\t' || (0x20 ≤ c.toNat && c.toNat < 0x7F && c != '"')

/-- Whether the text is a sequence of parameters, the first of which starts here.  Every parameter
uses up some of the text, so the length of the text is fuel enough. -/
def areParameters (fuel : Nat) (cs : List Char) : Bool :=
  match fuel, cs.dropWhile (· == ' ') with
  | _, [] => true
  | 0, _ => false
  | fuel + 1, cs =>
    let name := cs.takeWhile isTokenChar
    match cs.dropWhile isTokenChar with
    | '=' :: '"' :: rest =>
      match rest.dropWhile isQuotedChar with
      | '"' :: after =>
        !name.isEmpty && !(rest.takeWhile isQuotedChar).isEmpty &&
          match after.dropWhile (· == ' ') with
          | [] => true
          | ';' :: more => areParameters fuel more
          | _ => false
      | _ => false
    | '=' :: rest =>
      !name.isEmpty &&
        match rest.dropWhile isTokenChar with
        | [] => true
        | ';' :: more => !(rest.takeWhile isTokenChar).isEmpty && areParameters fuel more
        | _ => false
    | _ => false

/-- The subtype and the suffix of a full subtype. -/
def splitSuffix (cs : List Char) : List Char × Option (List Char) :=
  let suffix := (cs.reverse.takeWhile (· != '+')).reverse
  let before := cs.take (cs.length - suffix.length - 1)
  if before.isEmpty then (cs, none) else (before, some suffix)

/-- The media type that the text denotes. -/
def parse? (s : String) : Option MediaType :=
  let cs := s.toList.map Char.toLower
  let topLevel := cs.takeWhile isTokenChar
  match cs.dropWhile isTokenChar with
  | '/' :: rest =>
    let full := rest.takeWhile isTokenChar
    let parameters := match rest.dropWhile isTokenChar with
      | [] => true
      | ';' :: more => areParameters more.length more
      | _ => false
    if topLevel.isEmpty || full.isEmpty || !parameters then none
    else
      let (subtype, suffix) := splitSuffix full
      some ⟨String.ofList topLevel, String.ofList subtype, suffix.map String.ofList⟩
  | _ => none

/-- Whether contents of this type are JSON. -/
def isJson (type : MediaType) : Bool :=
  type.subtype == "json" || type.suffix == some "json"

end MediaType

end Http
end CodeAssistant
