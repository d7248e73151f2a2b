import ReviewContext.Report.Failure
import ReviewContext.Text.Codec
import ReviewContext.Text.Rows

/-!
# Files

A small file system of files and directories around a working directory. The text of a path is put
into a normal form: empty parts and parts of a single dot are dropped, and no part at all is the
working directory. Opening a path follows its parts one by one; a path and each of its parts are
limited in length. A file is read as UTF-8, and its row ends are unified.
-/

namespace ReviewContext

open ReviewContext.Text

inductive Entry where
  | file (bytes : List UInt8)
  | directory
  deriving DecidableEq, Repr

/-- The way to an entry: from the working directory on, or from the root if a slash comes first. -/
abbrev Location := List String

namespace PathText

/-- The parts of a path that name something. -/
def parts (path : String) : List String :=
  ((path.toList.splitOn '/').filter fun part => part != [] && part != ['.']).map String.ofList

/-- The slashes in front: two are kept apart from any other number. -/
def root (path : String) : String :=
  let slashes := path.toList.takeWhile fun c => c == '/'
  if slashes.isEmpty then "" else if slashes.length = 2 then "//" else "/"

/-- The path in normal form. -/
def normal (path : String) : String :=
  let text := root path ++ "/".intercalate (parts path)
  if text.isEmpty then "." else text

/-- The parts that are followed one by one, the root among them. -/
def steps (path : String) : List String :=
  if (root path).isEmpty then parts path else "/" :: parts path

end PathText

namespace Location

/-- The place that a part leads to. Two dots lead up, and nowhere from the root. -/
def step (place : Location) (part : String) : Location :=
  if part ≠ ".." then place ++ [part]
  else
    match place.getLast? with
    | none | some ".." => place ++ [part]
    | some "/" => place
    | some _ => place.dropLast

def ofPath (path : String) : Location :=
  (PathText.steps path).foldl step []

/-- The places above a place that lie on its way. -/
def above (place : Location) : List Location :=
  (List.range place.length).map place.take

/-- Whether the place is the root, the working directory or a directory above it. -/
def isAncestral (place : Location) : Bool :=
  place == ["/"] || place.all (· == "..")

end Location

/-- What stands at each place. -/
structure Files where
  entries : List (Location × Entry)
  deriving DecidableEq, Repr

namespace Files

def empty : Files :=
  ⟨[]⟩

def entryAt? (files : Files) (place : Location) : Option Entry :=
  if place.isAncestral then some .directory else files.entries.lookup place

/-- The greatest number of bytes in a part of a path. -/
def maxPartSize : Nat := 255

/-- The greatest number of bytes in a path. -/
def maxPathSize : Nat := 4095

/-- Follows the parts of a path from a directory on. -/
def follow (files : Files) (place : Location) : List String → Except FileFault Entry
  | [] => .ok .directory
  | part :: rest =>
    if maxPartSize < part.utf8ByteSize then .error .nameTooLong
    else
      match files.entryAt? (place.step part) with
      | none => .error .missing
      | some .directory => files.follow (place.step part) rest
      | some (.file bytes) => if rest.isEmpty then .ok (.file bytes) else .error .notDirectory

/-- The bytes of a file. -/
def readBytes (files : Files) (path : String) : Except FileFault (List UInt8) :=
  if maxPathSize < (PathText.normal path).utf8ByteSize then .error .nameTooLong
  else
    match files.follow [] (PathText.steps path) with
    | .error fault => .error fault
    | .ok .directory => .error .isDirectory
    | .ok (.file bytes) => .ok bytes

/-- Puts an entry at a place instead of any other. -/
def put (files : Files) (place : Location) (entry : Entry) : Files :=
  ⟨(place, entry) :: files.entries.filter fun (other, _) => other != place⟩

/-- Puts an entry at a path, and directories on the way. -/
def write (files : Files) (path : String) (entry : Entry) : Files :=
  let place := Location.ofPath path
  (place.above.foldl (fun files above => files.put above .directory) files).put place entry

/-- The directories that a system has at its root. -/
def rootDirectories : List String :=
  ["/bin", "/dev", "/etc", "/home", "/lib", "/opt", "/proc", "/root", "/run", "/sbin", "/sys",
    "/tmp", "/usr", "/var"]

/-- A system around an empty working directory, with an empty null device. -/
def bare : Files :=
  (rootDirectories.foldl (fun files path => files.write path .directory) empty).write "/dev/null"
    (.file [])

/-- Removes what is at a path and below. -/
def remove (files : Files) (path : String) : Files :=
  let place := Location.ofPath path
  ⟨files.entries.filter fun (other, _) => !place.isPrefixOf other⟩

end Files

/-- The text that bytes stand for, with unified row ends. -/
def readText (decode : List UInt8 → Except String (List Char)) (bytes : List UInt8) :
    Except Failure String :=
  match decode bytes with
  | .error message => .error (.illFormedText message)
  | .ok chars => .ok (String.ofList (unifyRowEnds chars))

namespace Files

/-- The text of a file. -/
def readText (files : Files) (path : String) : Except Failure String :=
  if path.toList.contains (Char.ofNat 0) then .error .nulInPath
  else
    match files.readBytes path with
    | .error fault => .error (.file fault (PathText.normal path))
    | .ok bytes => ReviewContext.readText Codec.utf8.decode bytes

end Files

end ReviewContext
