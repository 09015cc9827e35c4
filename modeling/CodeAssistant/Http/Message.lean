import CodeAssistant.Http.Exchange
import CodeAssistant.Json.Printing

namespace CodeAssistant
namespace Http

/-!
# Messages on the wire

A request is sent as a head of lines and its contents; the connection is closed after the answer.
The answer has the same form.  Its contents have the length that a header states, or come in chunks
that each state their own, or go on until the connection is closed.
-/

/-- A line end on the wire. -/
def lineEnd : List Char := ['\r', '\n']

/-- The characters that the bytes stand for in a head, one for each byte. -/
def headChars (bytes : List UInt8) : List Char :=
  bytes.map fun byte => Char.ofNat byte.toNat

namespace Post

/-- The headers of the request. -/
def headers (post : Post) : List Header :=
  [("Host", post.url.authority), ("Accept", "*/*"), ("Content-Type", "application/json"),
    ("Content-Length", decimal post.body.compact.utf8ByteSize), ("Connection", "close")] ++
    post.userAgent.toList.map (fun name => ("User-Agent", name)) ++
    post.authorization.toList.map fun value => ("Authorization", value)

/-- The request as it is sent. -/
def message (post : Post) : String :=
  let line := fun text : String => text ++ String.ofList lineEnd
  line ("POST " ++ post.url.target ++ " HTTP/1.1") ++
    String.join (post.headers.map fun header => line (header.1 ++ ": " ++ header.2)) ++
    line "" ++ post.body.compact

end Post

/-- The line at the start of the bytes and what follows its end, if it has an end. -/
def takeLine? : List UInt8 → Option (List UInt8 × List UInt8)
  | 13 :: 10 :: rest => some ([], rest)
  | byte :: rest => (takeLine? rest).map fun (line, after) => (byte :: line, after)
  | [] => none

/-- The lines of a head up to the empty one, and what follows it.  Every line uses up some bytes, so
their number is fuel enough. -/
def takeHead? (fuel : Nat) (bytes : List UInt8) : Option (List (List UInt8) × List UInt8) :=
  match fuel, takeLine? bytes with
  | _, none => none
  | _, some ([], rest) => some ([], rest)
  | 0, _ => none
  | fuel + 1, some (line, rest) =>
    (takeHead? fuel rest).map fun (lines, after) => (line :: lines, after)

/-- The number that a run of hexadecimal digits denotes. -/
def hexValue? (cs : List Char) : Option Nat :=
  if cs.isEmpty then none
  else cs.foldlM (fun value c =>
    let digit := c.toLower
    if digit.isDigit then some (16 * value + (digit.toNat - '0'.toNat))
    else if 'a' ≤ digit ∧ digit ≤ 'f' then some (16 * value + (digit.toNat - 'a'.toNat + 10))
    else none) 0

/-- The contents of chunks; they end with an empty chunk. -/
def joinChunks? (fuel : Nat) (bytes : List UInt8) : Option (List UInt8) :=
  match fuel with
  | 0 => none
  | fuel + 1 => do
    let (line, rest) ← takeLine? bytes
    let size ← hexValue? ((headChars line).takeWhile fun c => c != ';' && c != ' ')
    if size = 0 then return []
    else if rest.length < size then none
    else
      let (_, after) ← takeLine? (rest.drop size)
      return rest.take size ++ (← joinChunks? fuel after)

/-- The header in a line. -/
def headerOf (line : List UInt8) : Header :=
  let cs := headChars line
  (String.ofList (cs.takeWhile (· != ':')),
    receivedValue (String.ofList ((cs.dropWhile (· != ':')).drop 1)))

/-- The status in the first line of an answer. -/
def statusOf? (line : List UInt8) : Option Nat :=
  match Text.pieces ' ' (headChars line) with
  | _ :: status :: _ => if status.length = 3 then digitsValue? status else none
  | _ => none

/-- The contents of an answer with the given headers. -/
def contents? (headers : List Header) (bytes : List UInt8) : Option (List UInt8) :=
  if ((headerValue? headers "transfer-encoding").map headerName) = some "chunked" then
    joinChunks? (bytes.length + 1) bytes
  else match headerValue? headers "content-length" with
    | none => some bytes
    | some length => (digitsValue? length.toList).bind fun length =>
      if bytes.length < length then none else some (bytes.take length)

namespace Outcome

/-- The outcome of a request, given all that the server sent before it closed the connection. -/
def ofBytes (bytes : ByteArray) : Outcome :=
  let answer? : Option Answer := do
    let (lines, rest) ← takeHead? bytes.size bytes.toList
    let status ← lines.head?.bind statusOf?
    let contents ← if status = 204 ∨ status = 304 then some [] else
      contents? (lines.tail.map headerOf) rest
    return ⟨status, (String.fromUTF8? ⟨contents.toArray⟩).getD "\ufffd"⟩
  match answer? with
  | some answer => .answered answer
  | none => .hangUp

end Outcome

end Http
end CodeAssistant
