import CodeAssistant.Service.Environment
import CodeAssistant.Text.Alphanumeric
import CodeAssistant.Text.Blank

namespace CodeAssistant

/-!
# The settings file

Variables that are not set can be given in a file, one assignment `NAME=value` after the other.
Quotation marks and backslashes keep a line open past its end, a number sign after a blank starts a
comment, and `$NAME` in a value stands for a variable that is already set.  Reading stops at the
first line that is not an assignment; what was set before stays set.

A line is looked at twice.  The first look finds where it ends; the second, which has rules of its
own, takes the assignment apart.
-/

namespace SettingsFile

/-! ## Where an entry ends -/

/-- What the characters of an entry so far have opened. -/
inductive Extent where
  | plain | afterBackslash | afterBlank
  | double | doubleBackslash
  | single | singleBackslash
  | comment
  deriving DecidableEq, Repr

namespace Extent

/-- What a character opens outside quotation marks. -/
def opened : Char → Extent
  | '\\' => .afterBackslash
  | '"' => .double
  | '\'' => .single
  | _ => .plain

/-- The effect of one more character.  Only the first blank after other characters can have a
comment after it. -/
def next : Extent → Char → Extent
  | .plain, c => if Text.isBlank c && c != '\n' && c != '\r' then .afterBlank else opened c
  | .afterBlank, c => if c = '#' then .comment else opened c
  | .afterBackslash, _ => .plain
  | .double, c => if c = '\\' then .doubleBackslash else if c = '"' then .plain else .double
  | .doubleBackslash, _ => .double
  | .single, c => if c = '\\' then .singleBackslash else if c = '\'' then .plain else .single
  | .singleBackslash, _ => .single
  | .comment, _ => .comment

/-- The characters of a line up to a comment, and what the line leaves open. -/
def scan (extent : Extent) : List Char → List Char × Extent
  | [] => ([], extent)
  | c :: rest =>
    match extent.next c with
    | .comment => ([], .comment)
    | extent => let (kept, last) := extent.scan rest; (c :: kept, last)

end Extent

/-- The lines of a file that continues `line`, which is given backwards; each keeps the line feed at
its end. -/
def byteLinesFrom (line : List UInt8) : List UInt8 → List (List UInt8)
  | [] => if line.isEmpty then [] else [line.reverse]
  | byte :: rest =>
    if byte = 10 then (byte :: line).reverse :: byteLinesFrom [] rest
    else byteLinesFrom (byte :: line) rest

/-- The lines of a file before the first one that is not UTF-8 text. -/
def lines (contents : ByteArray) : List (List Char) :=
  ((byteLinesFrom [] contents.toList).map fun line => String.fromUTF8? ⟨line.toArray⟩).takeWhile
    Option.isSome |>.flatMap fun line => line.toList.map String.toList

/-- The line without the line feed at its end and the carriage return before it. -/
def dropLineFeed (line : List Char) : List Char :=
  match line.reverse with
  | '\n' :: '\r' :: rest => rest.reverse
  | '\n' :: rest => rest.reverse
  | _ => line

/-- The entries of a file whose lines follow the open line `before`.  In place of the last entry is
`none` if the file ends before the entry does. -/
def entriesFrom (extent : Extent) (before : List Char) :
    List (List Char) → List (Option (List Char))
  | [] => if extent = .plain then [] else [none]
  | line :: rest =>
    let joined := before ++ line
    if (Text.trimStart joined).head? = some '#' then some [] :: entriesFrom .plain [] rest
    else match extent.scan line with
      | (_, .plain) => some (dropLineFeed joined) :: entriesFrom .plain [] rest
      | (kept, .comment) => some (before ++ kept) :: entriesFrom .plain [] rest
      | (_, extent) => entriesFrom extent joined rest

/-- The entries of a file.  A byte order mark at its start does not count. -/
def entries (contents : ByteArray) : List (Option (List Char)) :=
  match lines contents with
  | ('\ufeff' :: line) :: rest => entriesFrom .plain [] (line :: rest)
  | lines => entriesFrom .plain [] lines

/-! ## The value of an assignment -/

/-- Where a character of a value stands.  Inside a name and after a backslash it is remembered
whether double quotation marks are open. -/
inductive Place where
  | plain | double | single
  | escaped (quoted : Bool)
  | name (quoted : Bool) (name : List Char)
  | bracedName (quoted : Bool) (name : List Char)
  | afterValue
  | comment

/-- The value so far and where the next character stands. -/
structure Progress where
  value : List Char
  place : Place

namespace Progress

/-- The place outside names. -/
def around (quoted : Bool) : Place :=
  if quoted then .double else .plain

/-- The value with one more character, the next one standing at `place`. -/
def add (progress : Progress) (c : Char) (place : Place) : Progress :=
  ⟨progress.value ++ [c], place⟩

/-- The value of a variable, which is empty if it is not set. -/
def expansion (environment : Environment) (name : List Char) : List Char :=
  (environment.valueOr (String.ofList name) "").toList

/-- The effect of a character outside single quotation marks that has no meaning but these. -/
def ordinary (progress : Progress) (quoted : Bool) (c : Char) : Progress :=
  if c = '$' then ⟨progress.value, .name quoted []⟩
  else if c = '\\' then ⟨progress.value, .escaped quoted⟩
  else progress.add c (around quoted)

/-- The effect of one more character, if it may stand there. -/
def next (environment : Environment) (progress : Progress) (c : Char) : Option Progress :=
  match progress.place with
  | .comment => some progress
  | .afterValue =>
    if c = ' ' ∨ c = '\t' then some progress
    else if c = '#' then some ⟨progress.value, .comment⟩
    else none
  | .escaped quoted =>
    if c ∈ ['\\', '\'', '"', '$', ' '] then some (progress.add c (around quoted))
    else if c = 'n' then some (progress.add '\n' (around quoted))
    else none
  | .single => some (if c = '\'' then ⟨progress.value, .plain⟩ else progress.add c .single)
  | .name quoted name =>
    if Text.isAlphanumeric c then some ⟨progress.value, .name quoted (name ++ [c])⟩
    else if c = '\x7b' ∧ name = [] then some ⟨progress.value, .bracedName quoted []⟩
    else
      let value := progress.value ++ expansion environment name
      if c = '$' then some ⟨value, .name quoted []⟩
      else some ⟨value ++ [c], around quoted⟩
  | .bracedName quoted name =>
    if c = '\x7d' then some ⟨progress.value ++ expansion environment name, around quoted⟩
    else some ⟨progress.value, .bracedName quoted (name ++ [c])⟩
  | .double => some (if c = '"' then ⟨progress.value, .plain⟩ else progress.ordinary true c)
  | .plain =>
    if c = '\'' then some ⟨progress.value, .single⟩
    else if c = '"' then some ⟨progress.value, .double⟩
    else if c = ' ' ∨ c = '\t' then some ⟨progress.value, .afterValue⟩
    else some (progress.ordinary false c)

/-- The whole value, unless something is still open. -/
def close? (environment : Environment) (progress : Progress) : Option (List Char) :=
  match progress.place with
  | .double | .single | .escaped true | .name true _ | .bracedName _ _ => none
  | .name false name => some (progress.value ++ expansion environment name)
  | _ => some progress.value

end Progress

/-- The value that the characters spell. -/
def value? (environment : Environment) (cs : List Char) : Option String :=
  ((cs.foldlM (Progress.next environment) ⟨[], .plain⟩).bind
    (Progress.close? environment)).map String.ofList

/-! ## Assignments -/

/-- Whether a name may start with the character. -/
def isNameStart (c : Char) : Bool :=
  c.isAlpha || c == '_'

/-- Whether the character may stand in a name. -/
def isNameChar (c : Char) : Bool :=
  c.isAlphanum || c == '_' || c == '.'

/-- A name, and what follows it and the blanks after it. -/
def name? (cs : List Char) : Option (String × List Char) :=
  if cs.head?.any isNameStart then
    some (String.ofList (cs.takeWhile isNameChar), Text.trimStart (cs.dropWhile isNameChar))
  else none

/-- The name of an assignment and what follows its equals sign.  The word `export` may stand before
the name, but it is a name like any other if it is itself followed by an equals sign. -/
def target? (cs : List Char) : Option (String × List Char) :=
  match name? cs with
  | some (name, '=' :: rest) => some (name, Text.trimStart rest)
  | some ("export", rest) =>
    match name? rest with
    | some (name, '=' :: rest) => some (name, Text.trimStart rest)
    | _ => none
  | _ => none

/-- What an entry does: nothing, or set a variable.  Anything else is not an entry. -/
def assignment? (environment : Environment) (entry : List Char) :
    Option (Option (String × String)) :=
  match Text.trimChars entry with
  | [] => some none
  | '#' :: _ => some none
  | cs =>
    match target? cs with
    | none => none
    | some (name, []) => some (some (name, ""))
    | some (name, '#' :: _) => some (some (name, ""))
    | some (name, value) => (value? environment value).map fun value => some (name, value)

/-- The environment after the entries of a file. -/
def loadEntries (environment : Environment) : List (Option (List Char)) → Environment
  | [] => environment
  | none :: _ => environment
  | some entry :: rest =>
    match assignment? environment entry with
    | none => environment
    | some none => loadEntries environment rest
    | some (some (name, value)) => loadEntries (environment.setIfAbsent name value) rest

/-- The environment after a settings file.  Variables that are already set keep their values. -/
def load (environment : Environment) (contents : ByteArray) : Environment :=
  loadEntries environment (entries contents)

end SettingsFile

end CodeAssistant
