import BriskModules.Text.Pieces

/-!
The lines of a text.

A line ends with a line feed, and a carriage return right before the line feed belongs
to the end of the line. A last line need not be ended, so a line feed at the very end of
the text starts no further line.
-/

namespace BriskModules.Text

/-- A line without the carriage return at its end. -/
def withoutReturn (line : List Char) : List Char :=
  if line.getLast? = some '\r' then line.dropLast else line

/-- The lines of a text, without what ends them. -/
def lines (text : List Char) : List (List Char) :=
  let parts := pieces '\n' text
  let ended := parts.dropLast.map withoutReturn
  match parts.getLast? with
  | some [] | none => ended
  | some rest => ended ++ [rest]

end BriskModules.Text
