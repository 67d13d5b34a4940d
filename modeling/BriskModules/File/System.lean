import BriskModules.File.Name
import Std.Data.ExtTreeMap

/-!
A file system: what is found where, and what a file name leads to.

A location is the list of names from the root down. A file name is followed part by part:
each part needs a directory to start from, two dots lead to the directory above, and empty
parts and dots stay where they are. There are no links, so every entry has one location, and
every directory may be entered. A file may be one that must not be opened.

A file name that is handed over as a whole, to open a file, has a greatest length. One that
is only followed has none, since no more than one of its parts is looked up at a time: a
name may go down and up again as often as it likes.

* `follow` tells the location that a file name leads to;
* `locate` tells the location that a file name to open leads to;
* `isFile` and `isReadable` tell whether there is a file, and whether it may be opened;
* `readText` reads a file;
* `write` adds a file.
-/

namespace BriskModules

/-- Where an entry is: the names from the root down. -/
abbrev Location := List String

/-- What can be had from a file: text, bytes that are no text, or nothing, since the file must
not be opened. -/
inductive Content where
  | text (value : String)
  | binary
  | denied
deriving DecidableEq, Repr

/-- What can be found at a location. -/
inductive Entry where
  | directory
  | file (content : Content)
deriving DecidableEq, Repr

/-- Why a file cannot be found or read. -/
inductive AccessError where
  | notFound
  | notDirectory
  | isDirectory
  | nameTooLong
  | zeroInName
  | denied
  | notText
deriving DecidableEq, Repr

/-- The wording of the operating system for an error. -/
def AccessError.message : AccessError → String
  | .notFound => "No such file or directory (os error 2)"
  | .notDirectory => "Not a directory (os error 20)"
  | .isDirectory => "Is a directory (os error 21)"
  | .nameTooLong => "File name too long (os error 36)"
  | .zeroInName => "file name contained an unexpected NUL byte"
  | .denied => "Permission denied (os error 13)"
  | .notText => "stream did not contain valid UTF-8"

/-- The entries below the root, none of which is a link, and the directory that relative names
start from. -/
structure Filesystem where
  entries : Std.ExtTreeMap Location Entry
  current : Location

namespace Filesystem

/-- A file system with the directories that lead to the current one. -/
def empty (current : Location) : Filesystem where
  entries := (List.range current.length).foldl
    (fun entries n => entries.insert (current.take (n + 1)) .directory) ∅
  current := current

/-- What is at a location. The root is always there. -/
def entry? (fs : Filesystem) (location : Location) : Option Entry :=
  if location = [] then some .directory else fs.entries[location]?

/-- Whether there is a directory at a location. -/
def isDirectory (fs : Filesystem) (location : Location) : Bool :=
  fs.entry? location = some .directory

/-- The greatest length of a part of a file name, in bytes. -/
def nameLimit : Nat := 255

/-- The length that a file name to open must stay below, in bytes. -/
def pathLimit : Nat := 4096

/-- Where a part of a file name leads from a location. -/
def step (fs : Filesystem) (location : Location) (part : String) :
    Except AccessError Location :=
  if ¬ fs.isDirectory location then .error .notDirectory
  else
    match Component.ofPart? part with
    | some (.named name) =>
      if nameLimit < name.utf8ByteSize then .error .nameTooLong
      else if (fs.entry? (location ++ [name])).isSome then .ok (location ++ [name])
      else .error .notFound
    | some .up => .ok location.dropLast
    | _ => .ok location

/-- Where a file name starts. -/
def origin (fs : Filesystem) (file : FileName) : Location :=
  if file.isAbsolute then [] else fs.current

/-- The location that a file name leads to, whatever the length of the name. -/
def follow (fs : Filesystem) (file : FileName) : Except AccessError Location :=
  if '\x00' ∈ file.text.toList then .error .zeroInName
  else if file.text = "" then .error .notFound
  else file.parts.foldlM fs.step (fs.origin file)

/-- The location that a file name leads to when it is handed over as a whole: the name must not
be too long. -/
def locate (fs : Filesystem) (file : FileName) : Except AccessError Location :=
  if '\x00' ∈ file.text.toList then .error .zeroInName
  else if pathLimit ≤ file.text.utf8ByteSize then .error .nameTooLong
  else fs.follow file

/-- Whether a file name leads to a file. -/
def isFile (fs : Filesystem) (file : FileName) : Bool :=
  match fs.locate file with
  | .ok location =>
    match fs.entry? location with
    | some (.file _) => true
    | _ => false
  | .error _ => false

/-- Whether a file name leads to a file that may be opened. -/
def isReadable (fs : Filesystem) (file : FileName) : Bool :=
  match fs.locate file with
  | .ok location =>
    match fs.entry? location with
    | some (.file content) => content ≠ .denied
    | _ => false
  | .error _ => false

/-- The text of the file that a name leads to. -/
def readText (fs : Filesystem) (file : FileName) : Except AccessError String := do
  match fs.entry? (← fs.locate file) with
  | some (.file (.text text)) => .ok text
  | some (.file .binary) => .error .notText
  | some (.file .denied) => .error .denied
  | some .directory => .error .isDirectory
  | none => .error .notFound

/-- The locations of all files. -/
def files (fs : Filesystem) : List Location :=
  fs.entries.toList.filterMap fun (location, entry) =>
    match entry with
    | .file _ => some location
    | .directory => none

/-! ### Changes -/

/-- The location that a file name leads to when missing directories are made. -/
def destination (fs : Filesystem) (file : FileName) : Location :=
  file.parts.foldl
    (fun location part =>
      match Component.ofPart? part with
      | some (.named name) => location ++ [name]
      | some .up => location.dropLast
      | _ => location)
    (fs.origin file)

/-- The file system with a directory at a location and at those that lead there. -/
def makeDirectory (fs : Filesystem) (location : Location) : Filesystem where
  entries := (List.range location.length).foldl
    (fun entries n => entries.insertIfNew (location.take (n + 1)) .directory) fs.entries
  current := fs.current

/-- The file system with a file under a name, and with the directories it needs. -/
def write (fs : Filesystem) (file : FileName) (content : Content) : Filesystem :=
  let location := fs.destination file
  let fs := fs.makeDirectory location.dropLast
  ⟨fs.entries.insert location (.file content), fs.current⟩

end Filesystem

end BriskModules
