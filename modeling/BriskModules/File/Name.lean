import BriskModules.Text.Pieces

/-!
File names: texts whose parts are separated by slashes.

A name is kept as it was written, because it is shown that way; what it means is read off
its parts. Empty parts and dots in the middle mean nothing, so `a//b`, `a/./b` and `a/b/`
lead to the same file. A leading slash makes a name absolute.

* `join` puts a name below another one, which an absolute name escapes;
* `components` are the parts that mean something;
* `withExtension` replaces the extension of the last part.
-/

namespace BriskModules

/-- The name of a file or directory, as it is written. -/
structure FileName where
  text : String
deriving DecidableEq, Repr, Inhabited

/-- A part of a file name that means something. -/
inductive Component where
  /-- The slash at the start of an absolute name. -/
  | root
  /-- The dot at the start of a relative name. -/
  | here
  /-- Two dots: the directory above. -/
  | up
  | named (name : String)
deriving DecidableEq, Repr

/-- A component as text. -/
def Component.text : Component → String
  | .root => "/"
  | .here => "."
  | .up => ".."
  | .named name => name

/-- What a part that is not the first one means, if it means anything. -/
def Component.ofPart? (part : String) : Option Component :=
  if part = "" ∨ part = "." then none
  else if part = ".." then some .up
  else some (.named part)

/-- A last part cut at its last dot: the stem and the extension, if there is one. A name
that only starts with a dot has none. -/
def splitExtension (name : String) : String × Option String :=
  if name = ".." then (name, none)
  else
    match (Text.cut '.' name).reverse with
    | last :: before :: more =>
      if more = [] ∧ before = "" then (name, none)
      else (Text.joined "." (before :: more).reverse, some last)
    | _ => (name, none)

namespace FileName

/-- The parts between the slashes. -/
def parts (file : FileName) : List String :=
  Text.cut '/' file.text

/-- Whether a name starts at the root. -/
def isAbsolute (file : FileName) : Bool :=
  file.text.toList.head? = some '/'

/-- A name put below a directory. -/
def join (directory file : FileName) : FileName :=
  if file.isAbsolute then file
  else if directory.text = "" ∨ directory.text.toList.getLast? = some '/' then
    ⟨directory.text ++ file.text⟩
  else ⟨directory.text ++ "/" ++ file.text⟩

/-- Segments put below one another. -/
def ofSegments (segments : List String) : FileName :=
  segments.foldl (fun file segment => file.join ⟨segment⟩) ⟨""⟩

/-- The parts of a name that mean something. -/
def components (file : FileName) : List Component :=
  match file.parts with
  | [] => []
  | first :: rest =>
    let start :=
      if file.isAbsolute then [.root]
      else if first = "." then [.here]
      else (Component.ofPart? first).toList
    start ++ rest.filterMap Component.ofPart?

/-- The last part that means something, if it is a name, and the parts before it. -/
def splitLast? (file : FileName) : Option (List String × String) :=
  match file.parts.reverse.dropWhile fun part => part = "" || part = "." with
  | last :: before => if last = ".." then none else some (before.reverse, last)
  | [] => none

/-- The name of the file itself, without its directories. -/
def lastName? (file : FileName) : Option String :=
  file.splitLast?.map (·.2)

/-- A name with another extension, or without any if the new one is empty. Names that do
not end in a name are left alone. -/
def withExtension (file : FileName) (extension : String) : FileName :=
  match file.splitLast? with
  | none => file
  | some (before, last) =>
    let stem := (splitExtension last).1
    let renamed := if extension = "" then stem else stem ++ "." ++ extension
    ⟨Text.joined "/" (before ++ [renamed])⟩

/-- The directory that a name leads into, and none if it ends in no name. -/
def parent? (file : FileName) : Option FileName :=
  match file.splitLast? with
  | none => none
  | some (before, _) =>
    match before with
    | [] => some ⟨""⟩
    | first :: more =>
      let kept := (more.reverse.dropWhile fun part => part = "" || part = ".").reverse
      if first = "" ∧ kept = [] then some ⟨"/"⟩
      else some ⟨Text.joined "/" (first :: kept)⟩

end FileName

end BriskModules
