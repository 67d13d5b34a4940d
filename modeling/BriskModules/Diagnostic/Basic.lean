import BriskModules.File.Name
import BriskModules.Json.Basic

/-!
Diagnostics: messages about source files.

A diagnostic has a level, a code, a message and a span, and may have notes and help. The
span is a place in a file; a line of zero means the file as a whole. As JSON, notes and
help are left out when there are none.

Lines, columns and lengths are natural numbers, and sums of them are exact. They stand for
machine words, so a span is meant to have numbers below `2 ^ 64`, and so are the sums that
are made from them.
-/

namespace BriskModules

/-- A place in a source file, with the number of characters it covers. The numbers are meant to
be below `2 ^ 64`. -/
structure Span where
  file : String
  line : Nat := 0
  column : Nat := 0
  length : Nat := 0
deriving DecidableEq, Repr, Inhabited

namespace Span

/-- No place at all. -/
def unknown : Span := ⟨"<unknown>", 0, 0, 0⟩

/-- A file as a whole. -/
def ofFile (file : FileName) : Span := ⟨file.text, 0, 0, 0⟩

/-- A place in the same file. -/
def place (span : Span) (line column length : Nat) : Span := ⟨span.file, line, column, length⟩

/-- A span as text. -/
def text (span : Span) : String :=
  if span.line = 0 then span.file
  else span.file ++ ":" ++ toString span.line ++ ":" ++ toString span.column

/-- A span as JSON. -/
def toJson (span : Span) : Json :=
  .object [("file", .string span.file), ("line", .int span.line), ("column", .int span.column),
    ("length", .int span.length)]

end Span

/-- How severe a diagnostic is. -/
inductive Level where
  | error
  | warning
  | note
  | help
deriving DecidableEq, Repr, Inhabited

/-- A level in one word. -/
def Level.label : Level → String
  | .error => "error"
  | .warning => "warning"
  | .note => "note"
  | .help => "help"

/-- A message about a source file. -/
structure Diagnostic where
  level : Level
  code : String
  message : String
  span : Span
  notes : List String := []
  help : Option String := none
deriving DecidableEq, Repr, Inhabited

namespace Diagnostic

/-- An error. -/
def error (code message : String) (span : Span) : Diagnostic :=
  ⟨.error, code, message, span, [], none⟩

/-- The same diagnostic with one more note. -/
def withNote (diagnostic : Diagnostic) (note : String) : Diagnostic :=
  { diagnostic with notes := diagnostic.notes ++ [note] }

/-- The same diagnostic with help. -/
def withHelp (diagnostic : Diagnostic) (help : String) : Diagnostic :=
  { diagnostic with help := some help }

/-- Whether a diagnostic is an error. -/
def isError (diagnostic : Diagnostic) : Bool := diagnostic.level = .error

/-- A diagnostic as JSON. -/
def toJson (diagnostic : Diagnostic) : Json :=
  .object <|
    [("level", .string diagnostic.level.label), ("code", .string diagnostic.code),
      ("message", .string diagnostic.message), ("span", diagnostic.span.toJson)] ++
    (if diagnostic.notes = [] then [] else [("notes", .ofStrings diagnostic.notes)]) ++
    (match diagnostic.help with
      | some help => [("help", .string help)]
      | none => [])

end Diagnostic

end BriskModules
