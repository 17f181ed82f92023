import Phrasebook.Text.Split

/-!
## Files

What a program sees of the file system: under a path there are bytes or there is a reason why there
are none.  Only files that are UTF-8 can be read as text.

* `Path.extension?` is the last part of a file's name.
* `Files.ofList` is a file system that has the given files and no others.
-/

namespace Phrasebook

/-- Why a file cannot be read. -/
inductive ReadFault where
  /-- There is nothing under the path. -/
  | missing
  /-- The path leads through a file. -/
  | notDirectory
  /-- The path leads to a directory. -/
  | directory
  /-- The file is not UTF-8. -/
  | notText
  /-- No file can have this name, since it has a character NUL. -/
  | nulInName
  /-- The path, or a name along it, is longer than any. -/
  | nameTooLong
  /-- Any other reason, in words. -/
  | other (reason : String)
  deriving DecidableEq, Repr

/-- The fault in words. -/
def ReadFault.reason : ReadFault → String
  | .missing => "No such file or directory (os error 2)"
  | .notDirectory => "Not a directory (os error 20)"
  | .directory => "Is a directory (os error 21)"
  | .notText => "stream did not contain valid UTF-8"
  | .nulInName => "file name contained an unexpected NUL byte"
  | .nameTooLong => "File name too long (os error 36)"
  | .other reason => reason

/-- The bytes of the file under each path. -/
abbrev Files := String → Except ReadFault ByteArray

/-- The text of the file under a path. -/
def Files.readText (files : Files) (path : String) : Except ReadFault String :=
  match files path with
  | .error fault => .error fault
  | .ok bytes =>
    match String.fromUTF8? bytes with
    | some text => .ok text
    | none => .error .notText

namespace Path

open Phrasebook.Text

/-- The names along a path: what stands between the slashes, without the empty names and the single
dots. -/
def names (path : String) : List (List Char) :=
  (splitAt '/' path.toList).filter fun name => !name.isEmpty && name != ['.']

/-- What stands behind the last dot in the name of a file, if anything stands before that dot.  Two
dots alone are not the name of a file. -/
def extension? (path : String) : Option (List Char) :=
  match (names path).getLast? with
  | none => none
  | some name =>
    if name = ['.', '.'] then none
    else match cutLast? '.' name with
      | some (stem, extension) => if stem.isEmpty then none else some extension
      | none => none

end Path

namespace Files

/-! ### Files in memory -/

/-- A file with the names that lead to it. -/
abbrev Entry := List (List Char) × ByteArray

/-- Whether names lead to a directory: to the place where all paths start, or to one that a file is
below of. -/
def isDirectory (entries : List Entry) (names : List (List Char)) : Bool :=
  names.isEmpty || entries.any fun entry => names.isPrefixOf entry.1 && names != entry.1

/-- Whether a name has more bytes than the name of a file can have. -/
def isLong (name : List Char) : Bool :=
  255 < (String.ofList name).utf8ByteSize

/-- Follows names from the directory that `here` leads to, and gives the names that lead to the end
without two dots.  Nothing is known of what is above the place where all paths start. -/
def follow (entries : List Entry) :
    List (List Char) → List (List Char) → Except ReadFault (List (List Char))
  | here, [] => .ok here
  | here, name :: rest =>
    if here.isEmpty && name = ['.', '.'] then
      .error (if rest.isEmpty then .directory else .missing)
    else if isDirectory entries here then
      if isLong name then .error .nameTooLong
      else follow entries (if name = ['.', '.'] then here.dropLast else here ++ [name]) rest
    else if entries.any fun entry => entry.1 = here then .error .notDirectory
    else .error .missing

/-- What is wrong with names that start at the root of the file system, of which nothing is known
but that it is a directory. -/
def outside : List (List Char) → ReadFault
  | [] => .directory
  | name :: _ => if isLong name then .nameTooLong else .missing

/-- The least number of bytes that no path can have. -/
def lengthLimit : Nat :=
  4096

/-- The file system that has these files, under relative paths. -/
def ofList (files : List (String × ByteArray)) : Files := fun path => do
  let entries := files.map fun (path, bytes) => (Path.names path, bytes)
  if path.isEmpty then .error .missing
  if path.contains '\x00' then .error .nulInName
  if lengthLimit ≤ path.utf8ByteSize then .error .nameTooLong
  if path.startsWith "/" then .error (outside (Path.names path))
  let names ← follow entries [] (Path.names path)
  match entries.find? fun entry => entry.1 = names with
  | some (_, bytes) =>
    -- A slash at the end asks for a directory.
    if path.endsWith "/" || path.endsWith "/." then .error .notDirectory else .ok bytes
  | none => .error (if isDirectory entries names then .directory else .missing)

end Files

end Phrasebook
