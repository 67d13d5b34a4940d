import BriskModules.Decimal.Shortest
import BriskModules.Json.Basic

/-!
JSON values as text.

`Json.compact` puts everything on one line without blanks. `Json.pretty` puts each element
and each member on a line of its own, indented by two blanks for each container around it;
empty containers stay closed up. In strings only quotes, backslashes and controls are
escaped. A double that is no number is written as null.
-/

namespace BriskModules.Json

/-- A hexadecimal digit. -/
def hexDigit (n : Nat) : Char :=
  if n < 10 then Char.ofNat ('0'.toNat + n) else Char.ofNat ('a'.toNat + (n - 10))

/-- A character as it is written in a string. -/
def escapedChar (c : Char) : List Char :=
  if c = '"' then ['\\', '"']
  else if c = '\\' then ['\\', '\\']
  else if c.toNat = 0x08 then ['\\', 'b']
  else if c.toNat = 0x09 then ['\\', 't']
  else if c.toNat = 0x0A then ['\\', 'n']
  else if c.toNat = 0x0C then ['\\', 'f']
  else if c.toNat = 0x0D then ['\\', 'r']
  else if c.toNat < 0x20 then
    ['\\', 'u', '0', '0', hexDigit (c.toNat / 16), hexDigit (c.toNat % 16)]
  else [c]

/-- A string between quotes. -/
def stringText (text : String) : String :=
  String.ofList (['"'] ++ text.toList.flatMap escapedChar ++ ['"'])

/-- A value that holds no other values. -/
def scalarText : Json → String
  | .bool true => "true"
  | .bool false => "false"
  | .int value => toString value
  | .float bits => (Decimal.textOfBits? bits).getD "null"
  | .string text => stringText text
  | _ => "null"

mutual

/-- A value on one line. -/
def compact : Json → String
  | .array elements => "[" ++ ",".intercalate (compactElements elements) ++ "]"
  | .object members => "\x7b" ++ ",".intercalate (compactMembers members) ++ "\x7d"
  | value => scalarText value

/-- Several values, each on one line. -/
def compactElements : List Json → List String
  | [] => []
  | value :: rest => compact value :: compactElements rest

/-- Several members, each on one line. -/
def compactMembers : List (String × Json) → List String
  | [] => []
  | (name, value) :: rest => (stringText name ++ ":" ++ compact value) :: compactMembers rest

end

/-- A line break followed by the blanks of `level` containers. -/
def lineBreak (level : Nat) : String :=
  "\n" ++ String.ofList (List.replicate (2 * level) ' ')

/-- What stands in a container, each part on its own line. -/
def setOut (opening closing : String) (level : Nat) (parts : List String) : String :=
  if parts.isEmpty then opening ++ closing
  else
    opening ++ lineBreak (level + 1) ++ ("," ++ lineBreak (level + 1)).intercalate parts ++
      lineBreak level ++ closing

mutual

/-- A value inside of `level` containers, set out over several lines. -/
def prettyAt (level : Nat) : Json → String
  | .array elements => setOut "[" "]" level (prettyElements (level + 1) elements)
  | .object members => setOut "\x7b" "\x7d" level (prettyMembers (level + 1) members)
  | value => scalarText value

/-- Several values, each set out over several lines. -/
def prettyElements (level : Nat) : List Json → List String
  | [] => []
  | value :: rest => prettyAt level value :: prettyElements level rest

/-- Several members, each set out over several lines. -/
def prettyMembers (level : Nat) : List (String × Json) → List String
  | [] => []
  | (name, value) :: rest =>
    (stringText name ++ ": " ++ prettyAt level value) :: prettyMembers level rest

end

/-- A value set out over several lines. -/
def pretty (value : Json) : String :=
  prettyAt 0 value

end BriskModules.Json
