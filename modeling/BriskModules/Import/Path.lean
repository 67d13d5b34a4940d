import BriskModules.Module.Identifier
import BriskModules.Text.Pieces

/-!
Import paths: how the text of an import names another module.

An import path starts at the root of another package (`@pkg/`), at the root of the own
package (`/`), some directories further up (`../`, as often as needed) or in the own
directory (`./`, or nothing at all). Then come directories, each with a slash behind it,
and a file. All names are identifiers.

* `ImportPath.parse` reads an import path and points at the first character that does not
  fit;
* `ImportPath.text` writes it, with `./` where the text may have had nothing.
-/

namespace BriskModules

/-- Where an import path starts. -/
inductive ImportStart where
  /-- At the root of another package. -/
  | package (name : String)
  /-- At the root of the own package. -/
  | root
  /-- Some directories above the own one. -/
  | up (levels : Nat)
  /-- In the own directory. -/
  | here
deriving DecidableEq, Repr

/-- An import path: where it starts, the directories from there, and the file. -/
structure ImportPath where
  start : ImportStart
  dirs : List String
  file : String
deriving DecidableEq, Repr

/-- What a name in an import path names. -/
inductive NameKind where
  | package
  | segment
deriving DecidableEq, Repr

/-- The kind of a name in words. -/
def NameKind.text : NameKind → String
  | .package => "package name"
  | .segment => "identifier"

/-- Why a text is no import path. -/
inductive ImportFault where
  /-- There is no name where one has to be, but another character or the end. -/
  | nameMissing (kind : NameKind) (found : Option Char)
  /-- The name is no identifier. -/
  | invalidName (kind : NameKind) (name : String)
  /-- The name of a package is not followed by a slash. -/
  | slashMissing
  /-- A name is followed by a character that cannot stand there. -/
  | unexpected (found : Char)
deriving DecidableEq, Repr

/-- A fault in words. -/
def ImportFault.text : ImportFault → String
  | .nameMissing kind (some c) => "expected " ++ kind.text ++ ", found '" ++ c.toString ++ "'"
  | .nameMissing kind none => "expected " ++ kind.text
  | .invalidName kind name => "'" ++ name ++ "' is not a valid " ++ kind.text
  | .slashMissing => "expected '/' after package name"
  | .unexpected c => "unexpected character '" ++ c.toString ++ "'"

/-- A fault and the column of the character at fault, counted from one. -/
structure ImportPathError where
  fault : ImportFault
  column : Nat
deriving DecidableEq, Repr

/-- A fault and its column in words. -/
def ImportPathError.message (error : ImportPathError) : String :=
  error.fault.text ++ " (column " ++ toString error.column ++ ")"

/-- The start of an import path as text. -/
def ImportStart.text : ImportStart → String
  | .package name => "@" ++ name ++ "/"
  | .root => "/"
  | .up levels => String.join (List.replicate levels "../")
  | .here => "./"

namespace ImportPath

/-- An import path as text. -/
def text (path : ImportPath) : String :=
  path.start.text ++ Text.joined "/" (path.dirs ++ [path.file])

/-- Reads the name at the start of a part and returns it with what is left of the part.
`column` is where the part starts, and `ended` tells whether a slash ends it. -/
def readName (kind : NameKind) (column : Nat) (ended : Bool) (part : List Char) :
    Except ImportPathError (String × List Char) :=
  let name := String.ofList (part.takeWhile isWordChar)
  let rest := part.dropWhile isWordChar
  if name = "" then
    .error ⟨.nameMissing kind (rest.head?.or (if ended then some '/' else none)), column⟩
  else if isIdentifier name then .ok (name, rest)
  else .error ⟨.invalidName kind name, column⟩

/-- Reads a part that is a name and nothing else. -/
def readSegment (column : Nat) (ended : Bool) (part : List Char) :
    Except ImportPathError String := do
  let (name, rest) ← readName .segment column ended part
  match rest with
  | [] => .ok name
  | c :: _ => .error ⟨.unexpected c, column + name.length⟩

/-- Reads the directories and the file from the parts of a text. -/
def readSegments (column : Nat) : List (List Char) →
    Except ImportPathError (List String × String)
  | [] => .error ⟨.nameMissing .segment none, column⟩
  | [part] => do
    let file ← readSegment column false part
    return ([], file)
  | part :: more => do
    let dir ← readSegment column true part
    let (dirs, file) ← readSegments (column + part.length + 1) more
    return (dir :: dirs, file)

/-- How often a text goes up at its start, and the parts behind that. -/
def splitAscent : List (List Char) → Nat × List (List Char)
  | ['.', '.'] :: next :: more =>
    let (levels, rest) := splitAscent (next :: more)
    (levels + 1, rest)
  | parts => (0, parts)

/-- Reads the start of an import path from the parts of a text, and returns it with the
column and the parts behind it. -/
def readStart : List (List Char) →
    Except ImportPathError (ImportStart × Nat × List (List Char))
  | ('@' :: package) :: more => do
    let (name, rest) ← readName .package 2 (more ≠ []) package
    if rest = [] ∧ more ≠ [] then .ok (.package name, package.length + 3, more)
    else .error ⟨.slashMissing, name.length + 2⟩
  | [] :: next :: more => .ok (.root, 2, next :: more)
  | ['.'] :: next :: more => .ok (.here, 3, next :: more)
  | parts =>
    match splitAscent parts with
    | (0, rest) => .ok (.here, 1, rest)
    | (levels, rest) => .ok (.up levels, 3 * levels + 1, rest)

/-- Reads an import path; the whole text has to be one. -/
def parse (text : String) : Except ImportPathError ImportPath := do
  let (start, column, parts) ← readStart (Text.pieces '/' text.toList)
  let (dirs, file) ← readSegments column parts
  return ⟨start, dirs, file⟩

end ImportPath

end BriskModules
