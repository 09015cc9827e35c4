import CodeAssistant.Number.Numeral
import CodeAssistant.Text.Search

namespace CodeAssistant
namespace Http

/-!
# Addresses of HTTP servers

An address is the scheme `http` or `https`, a host with an optional socket number, a path and an
optional query.  Which texts are read as which addresses is for the library to say that sends the
requests, so all that reads addresses takes a `UrlReader`.

The reader that is given here knows addresses whose hosts are ASCII names or stand in brackets.
Reading one brings it into its normal form: scheme and host are in lower case, the usual socket
number of the scheme is left out, `.` and `..` are resolved, and characters that may not stand in a
path are percent-encoded.  Anything else is not an address that can be requested.
-/

/-- An absolute address in normal form. -/
structure Url where
  scheme : String
  authority : String
  path : String
  query : Option String
  deriving DecidableEq

namespace Url

/-- What a request for the address asks the server for. -/
def target (url : Url) : String :=
  url.path ++ match url.query with
    | some query => "?" ++ query
    | none => ""

/-- The address as text. -/
def text (url : Url) : String :=
  url.scheme ++ "://" ++ url.authority ++ url.target

/-- Whether the character is a control character or a space, which may surround an address. -/
def isControlOrSpace (c : Char) : Bool :=
  c.toNat ≤ 0x20

/-- Whether a slash of either direction. -/
def isSlash (c : Char) : Bool :=
  c == '/' || c == '\\'

/-- The characters of an address: controls and spaces around it, and line ends and tabs inside it,
do not count. -/
def cleaned (cs : List Char) : List Char :=
  (Text.dropEndWhile isControlOrSpace (cs.dropWhile isControlOrSpace)).filter
    fun c => !(c == '\t' || c == '\n' || c == '\r')

/-- A byte in percent-encoding. -/
def percentByte (byte : UInt8) : List Char :=
  ['%', (Nat.digitChar (byte.toNat / 16)).toUpper, (Nat.digitChar (byte.toNat % 16)).toUpper]

/-- The character, percent-encoded if `reserved` holds or if it is not a printable ASCII one. -/
def percentEncode (reserved : Char → Bool) (c : Char) : List Char :=
  if c.toNat ≤ 0x20 || 0x7F ≤ c.toNat || reserved c then
    (String.singleton c).toUTF8.toList.flatMap percentByte
  else [c]

/-- Whether the character must be encoded in a path. -/
def isReservedInPath (c : Char) : Bool :=
  ['"', '#', '<', '>', '?', '`', '\x7b', '\x7d'].contains c

/-- Whether the character must be encoded in a query. -/
def isReservedInQuery (c : Char) : Bool :=
  ['"', '#', '<', '>', '\''].contains c

/-- The names of a path segment that stands for the directory itself or the one above. -/
def dotCount (segment : List Char) : Nat :=
  let lowered := segment.map Char.toLower
  if lowered = ['.'] ∨ lowered = ['%', '2', 'e'] then 1
  else if lowered ∈ [['.', '.'], ['.', '%', '2', 'e'], ['%', '2', 'e', '.'],
      ['%', '2', 'e', '%', '2', 'e']] then 2
  else 0

/-- The segments of a path that follow those in `before`, which is given backwards, with dots
resolved.  A path that ends in a dot segment names a directory. -/
def resolveDots (before : List (List Char)) : List (List Char) → List (List Char)
  | [] => before.reverse
  | segment :: rest =>
    match dotCount segment, rest with
    | 0, _ => resolveDots (segment :: before) rest
    | 1, [] => ([] :: before).reverse
    | 1, _ => resolveDots before rest
    | _, [] => ([] :: before.tail).reverse
    | _, _ => resolveDots before.tail rest

/-- The normal form of a path, which starts with a slash or is empty. -/
def normalPath (cs : List Char) : String :=
  let slashed := cs.map fun c => if c == '\\' then '/' else c
  let segments := resolveDots [] (Text.pieces '/' (slashed.drop 1))
  String.ofList (segments.flatMap fun segment =>
    '/' :: segment.flatMap (percentEncode isReservedInPath))

/-- The printable characters that may not stand in the name of a host. -/
def forbiddenInHost : List Char :=
  ['#', '%', '/', ':', '<', '>', '?', '@', '[', '\\', ']', '^', '`', '\x7b', '|', '\x7d']

/-- Whether the character may stand in the name of a host. -/
def isHostChar (c : Char) : Bool :=
  0x20 < c.toNat && c.toNat < 0x7F && !forbiddenInHost.contains c

/-- Whether the text is the name of a host, or a numeric address in brackets. -/
def isHost (cs : List Char) : Bool :=
  match cs with
  | '[' :: rest =>
    rest.getLast? == some ']' &&
      rest.dropLast.all (fun c => c.isAlphanum || c == ':' || c == '.')
  | _ => !cs.isEmpty && cs.all isHostChar

/-- The host and the socket number after the last colon that is not inside brackets. -/
def splitHost (cs : List Char) : List Char × Option (List Char) :=
  let number := (cs.reverse.takeWhile fun c => c != ':' && c != ']').reverse
  let host := cs.take (cs.length - number.length)
  match host.getLast? with
  | some ':' => (host.dropLast, some number)
  | _ => (cs, none)

/-- The socket number of a scheme. -/
def usualSocket (scheme : String) : Nat :=
  if scheme = "https" then 443 else 80

/-- The normal form of a host with an optional socket number. -/
def authority? (scheme : String) (cs : List Char) : Option String :=
  let (host, number) := splitHost (cs.reverse.takeWhile (· != '@')).reverse
  if isHost host then
    let name := String.ofList (host.map Char.toLower)
    match number with
    | none | some [] => some name
    | some digits =>
      if digits.all Char.isDigit then
        match numeralFrom 65535 0 digits with
        | .ok n => some (if n = usualSocket scheme then name else name ++ ":" ++ decimal n)
        | .error _ => none
      else none
  else none

/-- The address that the text denotes. -/
def parse? (s : String) : Option Url :=
  let cs := cleaned s.toList
  let scheme := String.ofList ((cs.takeWhile (· != ':')).map Char.toLower)
  match cs.dropWhile (· != ':') with
  | ':' :: rest =>
    if scheme = "http" ∨ scheme = "https" then
      let rest := (rest.dropWhile isSlash).takeWhile (· != '#')
      let ends := fun c => isSlash c || c == '?'
      let path := (rest.dropWhile fun c => !ends c).takeWhile (· != '?')
      let query := match rest.dropWhile (· != '?') with
        | '?' :: query => some (String.ofList (query.flatMap (percentEncode isReservedInQuery)))
        | _ => none
      (authority? scheme (rest.takeWhile fun c => !ends c)).map fun authority =>
        ⟨scheme, authority, normalPath path, query⟩
    else none
  | _ => none

/-- The host and the socket number of the server. -/
def server (url : Url) : String × Nat :=
  let (host, number) := splitHost url.authority.toList
  (String.ofList host, (number.bind digitsValue?).getD (usualSocket url.scheme))

/-- Whether the text is the name of a scheme. -/
def isScheme (cs : List Char) : Bool :=
  cs.head?.any Char.isAlpha &&
    cs.all fun c => c.isAlphanum || c == '+' || c == '-' || c == '.'

/-- The text of an address that names another scheme than those of HTTP. -/
def foreignText? (s : String) : Option String :=
  let cs := cleaned s.toList
  let scheme := cs.takeWhile (· != ':')
  let lowered := scheme.map Char.toLower
  match cs.dropWhile (· != ':') with
  | ':' :: rest =>
    if isScheme scheme && String.ofList lowered ∉ ["http", "https"] then
      some (String.ofList (lowered ++ ':' :: rest.flatMap fun c =>
        if c = ' ' then [c] else percentEncode (fun _ => false) c))
    else none
  | _ => none

end Url

/-- A way to read addresses. -/
structure UrlReader where
  /-- The address that a text denotes, if it can be requested over HTTP. -/
  parse? : String → Option Url
  /-- The text of an address that names another scheme than those of HTTP. -/
  foreignText? : String → Option String

/-- Reads addresses whose hosts are ASCII names or stand in brackets. -/
def UrlReader.standard : UrlReader :=
  ⟨Url.parse?, Url.foreignText?⟩

end Http
end CodeAssistant
