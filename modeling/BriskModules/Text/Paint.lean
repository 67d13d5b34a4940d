/-!
Bold and coloured text for a terminal.

A style is switched on by one escape sequence in front of the text and switched off by a
reset behind it. A reset inside the text would end the style too early, so the style is
switched on again right after it. Without colour a text is left as it is.

* `paint_off`: without colour, painting changes nothing.
-/

namespace BriskModules.Text

/-- The colours that messages use. -/
inductive Colour where
  | red
  | green
  | yellow
  | cyan
deriving DecidableEq, Repr

/-- The number by which a terminal knows a foreground colour. -/
def Colour.code : Colour → String
  | .red => "31"
  | .green => "32"
  | .yellow => "33"
  | .cyan => "36"

/-- How a piece of text is to look. -/
structure Style where
  /-- Bold or of normal weight. -/
  bold : Bool
  /-- The colour of the text, or none for the usual one. -/
  colour : Option Colour
deriving DecidableEq, Repr

namespace Style

/-- Bold text of a colour. -/
def strong (colour : Colour) : Style := ⟨true, some colour⟩

/-- Text of a colour. -/
def tinted (colour : Colour) : Style := ⟨false, some colour⟩

/-- Bold text. -/
def heavy : Style := ⟨true, none⟩

/-- The escape sequence that switches a style on. -/
def start (style : Style) : String :=
  let codes := (if style.bold then ["1"] else []) ++ (style.colour.map Colour.code).toList
  "\x1b[" ++ ";".intercalate codes ++ "m"

end Style

/-- The escape sequence that switches every style off. -/
def reset : String := "\x1b[0m"

/-- A text with `again` put behind every reset in it. -/
def resumeAfterResets (again : List Char) : List Char → List Char
  | '\x1b' :: '[' :: '0' :: 'm' :: rest =>
    reset.toList ++ again ++ resumeAfterResets again rest
  | c :: rest => c :: resumeAfterResets again rest
  | [] => []

/-- A text in a style, if there is to be colour at all. -/
def paint (colour : Bool) (style : Style) (text : String) : String :=
  if colour then
    style.start ++ String.ofList (resumeAfterResets style.start.toList text.toList) ++ reset
  else text

/-- Without colour, painting changes nothing. -/
@[simp]
theorem paint_off (style : Style) (text : String) : paint false style text = text := rfl

end BriskModules.Text
