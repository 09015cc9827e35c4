import CodeAssistant.Command.Path
import CodeAssistant.Number.Decimal

namespace CodeAssistant

/-!
# Files and directories

A file system says what stands at each place, a place being the list of names on the way from the
root.  The root is always a directory.  Following a path is possible as long as every place on the
way is a directory; that is how a path can be wrong in more than one way, and the first fault on the
way counts.
-/

/-- Why a file cannot be read or written. -/
inductive FileError where
  | notFound
  | exists
  | notADirectory
  | isADirectory
  | nameTooLong
  /-- The path holds the character NUL. -/
  | nulInName
  deriving DecidableEq, Repr

namespace FileError

/-- The record of a fault that the operating system reports. -/
def systemReport (code : Nat) (kind message : String) : String :=
  "Os \x7b code: " ++ decimal code ++ ", kind: " ++ kind ++ ", message: \"" ++ message ++ "\" \x7d"

/-- The record of a fault that is found without the operating system. -/
def inputReport (kind message : String) : String :=
  "Error \x7b kind: " ++ kind ++ ", message: \"" ++ message ++ "\" \x7d"

/-- The fault as it is reported. -/
def report : FileError → String
  | .notFound => systemReport 2 "NotFound" "No such file or directory"
  | .exists => systemReport 17 "AlreadyExists" "File exists"
  | .notADirectory => systemReport 20 "NotADirectory" "Not a directory"
  | .isADirectory => systemReport 21 "IsADirectory" "Is a directory"
  | .nameTooLong => systemReport 36 "InvalidFilename" "File name too long"
  | .nulInName => inputReport "InvalidInput" "file name contained an unexpected NUL byte"

end FileError

/-- The names on the way from the root to a place. -/
abbrev Place := List String

/-- What stands at a place. -/
inductive Node where
  | file (contents : ByteArray)
  | directory

/-- What stands at which places, the first entry for a place being the one that counts, and the
place where relative paths start. -/
structure FileSystem where
  nodes : List (Place × Node)
  current : Place

namespace FileSystem

/-- What stands at a place. -/
def node? (files : FileSystem) : Place → Option Node
  | [] => some .directory
  | place => files.nodes.lookup place

/-- Put something at a place. -/
def put (files : FileSystem) (place : Place) (node : Node) : FileSystem :=
  { files with nodes := (place, node) :: files.nodes }

/-- Where a path starts. -/
def start (files : FileSystem) (path : Path) : Place :=
  if path.isAbsolute then [] else files.current

/-- The number of bytes that a name may have. -/
def maxNameBytes : Nat := 255

/-- The number of bytes that a path may have. -/
def maxPathBytes : Nat := 4095

/-- The place to which one step leads from a directory. -/
def enter (place : Place) : Path.Step → Except FileError Place
  | .here => .ok place
  | .up => .ok place.dropLast
  | .name name =>
    if maxNameBytes < name.utf8ByteSize then .error .nameTooLong else .ok (place ++ [name])

/-- The place to which steps lead.  Something has to stand at every place but the last, and it has
to be a directory. -/
def follow (files : FileSystem) (place : Place) : List Path.Step → Except FileError Place
  | [] => .ok place
  | step :: rest =>
    match files.node? place with
    | none => .error .notFound
    | some (.file _) => .error .notADirectory
    | some .directory => (enter place step).bind fun next => files.follow next rest

/-- A path whose text cannot be that of a path at all. -/
def fault? (path : Path) : Option FileError :=
  if path.text.toList.contains '\x00' then some .nulInName
  else if path.text = "" then some .notFound
  else if maxPathBytes < path.text.utf8ByteSize then some .nameTooLong
  else none

/-- The contents of a file. -/
def read (files : FileSystem) (path : Path) : Except FileError ByteArray :=
  match fault? path with
  | some fault => .error fault
  | none => (files.follow (files.start path) path.steps).bind fun place =>
    match files.node? place with
    | none => .error .notFound
    | some .directory => .error .isADirectory
    | some (.file contents) => .ok contents

/-- Whether the steps lead to a directory. -/
def isDirectory (files : FileSystem) (place : Place) (steps : List Path.Step) : Bool :=
  match files.follow place steps with
  | .ok place =>
    match files.node? place with
    | some .directory => true
    | _ => false
  | .error _ => false

/-- Make a directory, in a directory that exists. -/
def makeDirectory (files : FileSystem) (place : Place) (before : List Path.Step)
    (last : Path.Step) : Except FileError FileSystem :=
  (files.follow place before).bind fun inside =>
    (files.follow inside [last]).bind fun target =>
      match last, files.node? target with
      | .name _, none => .ok (files.put target .directory)
      | _, _ => .error .exists

/-- Make sure that a directory is there, given the steps that lead to it, the last one first.  The
directories that lead to it are made only if it cannot be made without them. -/
def makeDirectories (files : FileSystem) (place : Place) :
    List Path.Step → FileSystem × Except FileError Unit
  | [] => (files, .ok ())
  | last :: before =>
    match files.makeDirectory place before.reverse last with
    | .ok made => (made, .ok ())
    | .error .notFound =>
      match files.makeDirectories place before with
      | (files, .error fault) => (files, .error fault)
      | (files, .ok ()) =>
        match files.makeDirectory place before.reverse last with
        | .ok made => (made, .ok ())
        | .error fault =>
          (files, if files.isDirectory place (before.reverse ++ [last]) then .ok ()
            else .error fault)
    | .error fault =>
      (files, if files.isDirectory place (before.reverse ++ [last]) then .ok () else .error fault)

/-- Make a file with the given contents, or replace its contents, in a directory that exists. -/
def makeFile (files : FileSystem) (path : Path) (contents : ByteArray) :
    FileSystem × Except FileError Unit :=
  match fault? path with
  | some fault => (files, .error fault)
  | none =>
    if path.endsInSlash then
      match files.follow (files.start path) path.components.dropLast with
      | .error fault => (files, .error fault)
      | .ok _ => (files, .error .isADirectory)
    else match files.follow (files.start path) path.steps with
      | .error fault => (files, .error fault)
      | .ok place =>
        match files.node? place with
        | some .directory => (files, .error .isADirectory)
        | _ => (files.put place (.file contents), .ok ())

/-- Whether a step has a name that holds the character NUL. -/
def holdsNul : Path.Step → Bool
  | .name name => name.toList.contains '\x00'
  | _ => false

/-- Write a file.  The directory of the file is made if it is not there; it stays even if the file
cannot be written. -/
def write (files : FileSystem) (path : Path) (contents : ByteArray) :
    FileSystem × Except FileError Unit :=
  let directory := path.components.reverse.tail
  if directory.any holdsNul then (files, .error .nulInName)
  else match files.makeDirectories (files.start path) directory with
    | (files, .error fault) => (files, .error fault)
    | (files, .ok ()) => files.makeFile path contents

end FileSystem

end CodeAssistant
