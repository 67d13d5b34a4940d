import BriskModules.Decimal.Shortest
import BriskModules.Text.Quoted

/-!
What can be wrong with a JSON text, and where.

A `Cause` is either a fault of the text itself, such as a missing comma, or a mismatch
between the value that was read and the shape that was asked for. A `Fault` adds the place:
lines count from one, and the column is the number of bytes of the line up to the fault.
-/

namespace BriskModules.Json

/-- A place in a text. -/
structure Position where
  line : Nat
  /-- The number of bytes of the line before the place. -/
  column : Nat
deriving DecidableEq, Repr

/-- The value that was found where another one was expected. -/
inductive Found where
  | null
  | bool (value : Bool)
  | integer (value : Int)
  | float (bits : UInt64)
  | string (value : String)
  | sequence
  | map
  /-- The bare name of a variant. -/
  | bareVariant
deriving DecidableEq, Repr

/-- A found value in words. -/
def Found.text : Found → String
  | .null => "null"
  | .bool true => "boolean `true`"
  | .bool false => "boolean `false`"
  | .integer value => "integer `" ++ toString value ++ "`"
  | .float bits =>
    "floating point `" ++ (Decimal.textOfBits? bits).getD "NaN" ++ "`"
  | .string value => "string " ++ Text.quoted value
  | .sequence => "sequence"
  | .map => "map"
  | .bareVariant => "unit variant"

/-- Why a JSON text cannot be read. -/
inductive Cause where
  | endInList
  | endInObject
  | endInString
  | endInValue
  | colonMissing
  | listCommaMissing
  | objectCommaMissing
  | badWord
  | valueMissing
  | badEscape
  | badNumber
  | numberTooLarge
  | controlInString
  | keyNotString
  | loneSurrogate
  | endInSurrogatePair
  | trailingComma
  | trailingText
  | tooDeep
  /-- A value of another kind than the expected one. -/
  | invalidType (found : Found) (expected : String)
  /-- A value of the right kind outside of the range. -/
  | invalidValue (found : Found) (expected : String)
  /-- An array with too few elements for what it stands for. -/
  | invalidLength (length : Nat) (expected : String)
  | missingField (name : String)
  | duplicateField (name : String)
  | unknownVariant (name : String) (known : List String)
  /-- A value that has the shape asked for but is no data of the type. -/
  | unfit
deriving DecidableEq, Repr

/-- The names of which one was expected, in words. -/
def oneOf : List String → String
  | [] => "there are no variants"
  | [name] => "`" ++ name ++ "`"
  | [first, second] => "`" ++ first ++ "` or `" ++ second ++ "`"
  | names => "one of " ++ ", ".intercalate (names.map fun name => "`" ++ name ++ "`")

/-- A cause in words. -/
def Cause.text : Cause → String
  | .endInList => "EOF while parsing a list"
  | .endInObject => "EOF while parsing an object"
  | .endInString => "EOF while parsing a string"
  | .endInValue => "EOF while parsing a value"
  | .colonMissing => "expected `:`"
  | .listCommaMissing => "expected `,` or `]`"
  | .objectCommaMissing => "expected `,` or `\x7d`"
  | .badWord => "expected ident"
  | .valueMissing => "expected value"
  | .badEscape => "invalid escape"
  | .badNumber => "invalid number"
  | .numberTooLarge => "number out of range"
  | .controlInString => "control character (\\u0000-\\u001F) found while parsing a string"
  | .keyNotString => "key must be a string"
  | .loneSurrogate => "lone leading surrogate in hex escape"
  | .endInSurrogatePair => "unexpected end of hex escape"
  | .trailingComma => "trailing comma"
  | .trailingText => "trailing characters"
  | .tooDeep => "recursion limit exceeded"
  | .invalidType found expected => "invalid type: " ++ found.text ++ ", expected " ++ expected
  | .invalidValue found expected => "invalid value: " ++ found.text ++ ", expected " ++ expected
  | .invalidLength length expected =>
    "invalid length " ++ toString length ++ ", expected " ++ expected
  | .missingField name => "missing field `" ++ name ++ "`"
  | .duplicateField name => "duplicate field `" ++ name ++ "`"
  | .unknownVariant name known => "unknown variant `" ++ name ++ "`, expected " ++ oneOf known
  | .unfit => "value out of range"

/-- A cause and its place. -/
structure Fault where
  cause : Cause
  position : Position
deriving DecidableEq, Repr

/-- A fault in words. -/
def Fault.message (fault : Fault) : String :=
  fault.cause.text ++ " at line " ++ toString fault.position.line ++ " column " ++
    toString fault.position.column

end BriskModules.Json
