import CodeAssistant.Http.Request
import CodeAssistant.Json.Reading

namespace CodeAssistant

/-!
# Web frameworks

Between the network and the service stands a web framework.  It says by which path a request is
routed, and it makes a value of the contents or refuses them: they must be declared to be JSON, be
short enough, be sent in a coding that can be undone, and be well-formed.  How all this is done is
its own affair.  A `Framework` comes with what is known of it: a path without special characters
stays as it is, and a plain text is read as JSON.

In `Framework.standard` the percent-encoding of a path is undone before it is compared with that of
an endpoint, and so is the coding of the contents before they are read.  Only the decompression is
left open there.
-/

/-- Why the service does not do what a request asks for. -/
inductive Refusal where
  /-- No endpoint has this method and path. -/
  | unknownEndpoint
  /-- The contents are not declared to be JSON. -/
  | undeclaredContents
  /-- The contents are too long. -/
  | oversizedContents
  /-- The contents do not spell the record that the endpoint wants. -/
  | undecodableContents
  deriving DecidableEq, Repr

namespace Refusal

/-- The status of the response. -/
def status : Refusal → Nat
  | .unknownEndpoint => 404
  | .undeclaredContents => 400
  | .oversizedContents => 413
  | .undecodableContents => 400

end Refusal

/-- The greatest number of bytes in the contents of a request. -/
def maxContentBytes : Nat := 2 * 1024 * 1024

/-- The value that a text of acceptable length spells. -/
def readContents (text : String) : Except Refusal Json :=
  if maxContentBytes < text.utf8ByteSize then .error .oversizedContents
  else match Json.parse? text with
    | some value => .ok value
    | none => .error .undecodableContents

/-- Whether the path begins with a slash and consists of ASCII letters and digits, slashes, dots and
hyphens. -/
def isPlainPath (path : String) : Bool :=
  path.toList.head? == some '/' &&
    path.toList.all fun c => c.isAlphanum || c == '/' || c == '.' || c == '-'

/-- A web framework, as far as the service relies on it. -/
structure Framework where
  /-- The path by which a request is routed. -/
  path : Http.Request → String
  /-- The value that the contents of a request spell. -/
  extract : Http.Request → Except Refusal Json
  /-- A plain path stays as it is. -/
  path_of_plain {request : Http.Request} (plain : isPlainPath request.path = true) :
    path request = request.path
  /-- A text that is declared to be JSON, and to be in no coding, is read. -/
  extract_of_text {request : Http.Request} {text : String}
    (declared : request.header? "content-type" = some "application/json")
    (uncoded : request.header? "content-encoding" = none) (sent : request.body = text.toUTF8) :
    extract request = readContents text
  /-- Contents of which nothing is declared are refused. -/
  extract_of_undeclared {request : Http.Request}
    (undeclared : request.header? "content-type" = none) :
    extract request = .error .undeclaredContents

namespace Framework

/-- The byte that two hexadecimal digits behind a percent sign stand for.  The percent sign, the
slash and the plus sign stay encoded. -/
def encodedByte? (high low : Char) : Option UInt8 := do
  let byte := 16 * (← Json.hexValue? high) + (← Json.hexValue? low)
  if ['%', '/', '+'].contains (Char.ofNat byte) then none else some (UInt8.ofNat byte)

/-- The bytes of a path whose percent-encoding is undone. -/
def pathBytes : List Char → List UInt8
  | '%' :: high :: low :: rest =>
    match encodedByte? high low with
    | some byte => byte :: pathBytes rest
    | none => '%'.toUInt8 :: pathBytes (high :: low :: rest)
  | c :: rest => String.utf8EncodeChar c ++ pathBytes rest
  | [] => []

/-- The path whose percent-encoding is undone.  Without a percent sign there is nothing to undo. -/
def decodedPath (path : String) : String :=
  if path.toList.contains '%' then
    (String.fromUTF8? ⟨(pathBytes path.toList).toArray⟩).getD "\ufffd"
  else path

/-- The codings of contents, by which they are compressed. -/
def codings : List String :=
  ["br", "gzip", "deflate", "zstd"]

/-- The contents of a request, decompressed if they are in a coding.  A coding that is not known
counts as none. -/
def contents? (decompress : String → ByteArray → Option ByteArray) (request : Http.Request) :
    Option ByteArray :=
  match ((request.header? "content-encoding").map Http.headerName).filter codings.contains with
  | some coding => decompress coding request.body
  | none => some request.body

/-- The value that the contents of a request spell, which must be UTF-8.  Their length is looked at
before they are decompressed, and again afterwards. -/
def extractWith (decompress : String → ByteArray → Option ByteArray) (request : Http.Request) :
    Except Refusal Json :=
  if !request.hasJsonType then .error .undeclaredContents
  else if maxContentBytes < request.body.size then .error .oversizedContents
  else match (contents? decompress request).bind String.fromUTF8? with
    | some text => readContents text
    | none => .error .undecodableContents

theorem extractWith_of_text (decompress : String → ByteArray → Option ByteArray)
    {request : Http.Request} {text : String}
    (declared : request.header? "content-type" = some "application/json")
    (uncoded : request.header? "content-encoding" = none) (sent : request.body = text.toUTF8) :
    extractWith decompress request = readContents text := by
  have json : request.hasJsonType = true := by
    rw [Http.Request.hasJsonType, declared]
    decide
  have size : request.body.size = text.utf8ByteSize := congrArg ByteArray.size sent
  have contents : (contents? decompress request).bind String.fromUTF8? = some text := by
    rw [contents?, uncoded, sent]
    exact dif_pos text.isValidUTF8
  rw [extractWith, json, contents, size, Bool.not_true, if_neg Bool.false_ne_true]
  by_cases large : maxContentBytes < text.utf8ByteSize
  · rw [if_pos large, readContents, if_pos large]
  · rw [if_neg large]

/-- Contents whose coding cannot be undone are refused, whatever they are without it. -/
theorem extractWith_of_garbled {decompress : String → ByteArray → Option ByteArray}
    {request : Http.Request} {coding : String} (declared : request.hasJsonType = true)
    (fits : request.body.size ≤ maxContentBytes)
    (coded : request.header? "content-encoding" = some coding)
    (known : codings.contains (Http.headerName coding) = true)
    (garbled : decompress (Http.headerName coding) request.body = none) :
    extractWith decompress request = .error .undecodableContents := by
  have unread : contents? decompress request = none := by
    rw [contents?, coded, Option.map_some, Option.filter_some_pos known]
    exact garbled
  rw [extractWith, declared, unread, Bool.not_true, if_neg Bool.false_ne_true,
    if_neg (Nat.not_lt.mpr fits)]
  rfl

/-- The framework that undoes the encoding of paths and the coding of contents, with the given way
to decompress them. -/
def standard (decompress : String → ByteArray → Option ByteArray) : Framework where
  path request := decodedPath request.path
  extract := extractWith decompress
  path_of_plain {request} plain := by
    rw [decodedPath, if_neg]
    intro encoded
    rw [isPlainPath, Bool.and_eq_true, List.all_eq_true] at plain
    exact absurd (plain.2 '%' (List.contains_iff_mem.mp encoded)) (by decide)
  extract_of_text := extractWith_of_text decompress
  extract_of_undeclared {request} undeclared := by
    rw [extractWith, Http.Request.hasJsonType, undeclared]
    rfl

example : decodedPath "/%67enerate" = "/generate" := by decide

example : decodedPath "/api%2Fv1%2525" = "/api%2Fv1%2525" := by decide

end Framework
end CodeAssistant
