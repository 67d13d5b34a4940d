import BriskModules.Diagnostic.Basic
import BriskModules.Text.Lines
import BriskModules.Text.Paint

/-!
Diagnostics as text for a terminal.

A diagnostic starts with its level, code and message and with the place it is about. If
the source is at hand and has the line, the line follows with its number, and below it a
row of carets under the characters at fault. Notes and help come last.

* `Diagnostic.format` shows a diagnostic with the source line;
* `Diagnostic.display` shows it without.
-/

namespace BriskModules

open Text (paint Style)

/-- The colour of a level. -/
def Level.colour : Level → Text.Colour
  | .error => .red
  | .warning => .yellow
  | .note => .cyan
  | .help => .green

/-- A level as it is shown. -/
def Level.display (colour : Bool) (level : Level) : String :=
  paint colour (.strong level.colour) level.label

/-- A number of blanks. -/
def blanks (count : Nat) : String := String.ofList (List.replicate count ' ')

namespace Diagnostic

/-- Level, code and message, and below them the place. -/
def header (colour : Bool) (diagnostic : Diagnostic) : String :=
  diagnostic.level.display colour ++ "[" ++ diagnostic.code ++ "]: " ++
    paint colour .heavy diagnostic.message ++ "\n " ++ paint colour (.strong .cyan) "-->" ++
    " " ++ diagnostic.span.text ++ "\n"

/-- A note as it is shown. -/
def noteLine (colour : Bool) (note : String) : String :=
  " " ++ paint colour (.strong .cyan) "=" ++ " " ++ paint colour (.tinted .cyan) note ++ "\n"

/-- Help as it is shown. -/
def helpLine (colour : Bool) (help : String) : String :=
  " " ++ paint colour (.strong .green) "help:" ++ " " ++ help ++ "\n"

/-- Notes and help. -/
def trailer (colour : Bool) (diagnostic : Diagnostic) : String :=
  String.join (diagnostic.notes.map (noteLine colour)) ++
    ((diagnostic.help.map (helpLine colour)).getD "")

/-- The line of a source that a diagnostic is about. -/
def sourceLine? (diagnostic : Diagnostic) (source : String) : Option String :=
  if diagnostic.span.line = 0 then none
  else ((Text.lines source.toList)[diagnostic.span.line - 1]?).map String.ofList

/-- How many characters a line number takes at least. -/
def numberWidth (line : Nat) : Nat := max 2 (toString line).length

/-- The line number, as wide as `numberWidth` says. -/
def lineNumber (line : Nat) : String :=
  blanks (numberWidth line - (toString line).length) ++ toString line

/-- The row of carets, as long as the span and at least one. -/
def carets (span : Span) : String :=
  String.ofList (List.replicate (max 1 span.length) '^')

/-- A source line with its number and with carets below the characters at fault. The number of
blanks in front of the carets is a sum that is meant to be below `2 ^ 64`, so the column has to be
below `2 ^ 64 - 22`: no line number has more than twenty digits. -/
def snippet (colour : Bool) (span : Span) (line : String) : String :=
  let width := numberWidth span.line
  let gutter := paint colour (.tinted .cyan) (blanks (width + 1))
  " " ++ gutter ++ "\n" ++
    " " ++ paint colour (.strong .cyan) (lineNumber span.line) ++ " " ++
      paint colour (.strong .cyan) "|" ++ " " ++ line ++ "\n" ++
    " " ++ gutter ++ " " ++ blanks (width + 3 + (span.column - 1)) ++
      paint colour (.strong .red) (carets span) ++ "\n"

/-- A diagnostic with the line of the source that it is about. -/
def format (colour : Bool) (diagnostic : Diagnostic) (source : String) : String :=
  diagnostic.header colour ++
    (match diagnostic.sourceLine? source with
      | some line => snippet colour diagnostic.span line
      | none => "") ++
    diagnostic.trailer colour

/-- A diagnostic without the source. -/
def display (colour : Bool) (diagnostic : Diagnostic) : String :=
  diagnostic.header colour ++ diagnostic.trailer colour

end Diagnostic

end BriskModules
