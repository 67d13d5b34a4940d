import BriskModules.Json.Basic
import BriskModules.Json.Cursor

/-!
Strings, numbers and words of a JSON text.

A string holds characters and escapes; characters beyond the basic plane may be escaped
as a pair of surrogates. A number without fraction and exponent is an integer as long as
it fits into 64 bits, and every other number is a double: the leading digits that fit into
64 bits are scaled by a power of ten, with one rounding for each factor.

* `string` reads the rest of a string behind its opening quote;
* `number` reads the rest of a number behind its sign.
-/

namespace BriskModules.Json.Scan

/-! ### Strings -/

/-- The value of a hexadecimal digit. -/
def hexValue? (c : Char) : Option Nat :=
  if '0' ≤ c ∧ c ≤ '9' then some (c.toNat - '0'.toNat)
  else if 'a' ≤ c ∧ c ≤ 'f' then some (c.toNat - 'a'.toNat + 10)
  else if 'A' ≤ c ∧ c ≤ 'F' then some (c.toNat - 'A'.toNat + 10)
  else none

/-- The value of four hexadecimal digits at the start of a text. -/
def fourHexDigits? : List Char → Option Nat
  | a :: b :: c :: d :: _ => do
    return ((← hexValue? a) * 16 + (← hexValue? b)) * 256 + (← hexValue? c) * 16 + (← hexValue? d)
  | _ => none

/-- Reads four hexadecimal digits. -/
def hexEscape : Scan Nat := do
  let cursor ← get
  match fourHexDigits? cursor.rest with
  | some value =>
    advance; advance; advance; advance
    return value
  | none =>
    match Position.afterBytes 4 cursor.rest cursor.position with
    | some position => throw ⟨.badEscape, some position⟩
    | none => throw ⟨.endInString, some cursor.finish⟩

/-- Whether a number is the first half of a surrogate pair. -/
def isHighSurrogate (n : Nat) : Bool := 0xD800 ≤ n && n ≤ 0xDBFF

/-- Whether a number is the second half of a surrogate pair. -/
def isLowSurrogate (n : Nat) : Bool := 0xDC00 ≤ n && n ≤ 0xDFFF

/-- Reads one character that has to be `expected` within a surrogate pair. -/
def pairChar (expected : Char) : Scan Unit := do
  match ← peek with
  | none => failHere .endInString
  | some c => if c = expected then advance else failNext .endInSurrogatePair

/-- Reads the rest of a numeric escape. -/
def unicodeEscape : Scan Char := do
  let first ← hexEscape
  if isLowSurrogate first then failHere .loneSurrogate
  else if isHighSurrogate first then
    pairChar '\\'
    pairChar 'u'
    let second ← hexEscape
    if isLowSurrogate second then
      return Char.ofNat ((first - 0xD800) * 0x400 + (second - 0xDC00) + 0x10000)
    else failHere .loneSurrogate
  else return Char.ofNat first

/-- The character that a letter behind a backslash stands for. -/
def simpleEscape? (c : Char) : Option Char :=
  match c with
  | '"' => some '"'
  | '\\' => some '\\'
  | '/' => some '/'
  | 'b' => some '\x08'
  | 'f' => some '\x0c'
  | 'n' => some '\n'
  | 'r' => some '\r'
  | 't' => some '\t'
  | _ => none

/-- Reads the rest of an escape behind its backslash. -/
def escape : Scan Char := do
  match ← peek with
  | none => failHere .endInString
  | some 'u' =>
    advance
    unicodeEscape
  | some c =>
    match simpleEscape? c with
    | some value =>
      advance
      return value
    | none => failNext .badEscape

/-- Reads the rest of a string; `read` holds its characters so far, the last one first. -/
def stringFrom : Nat → List Char → Scan String
  | 0, _ => failHere .endInString
  | fuel + 1, read => do
    match ← peek with
    | none => failHere .endInString
    | some '"' =>
      advance
      return String.ofList read.reverse
    | some '\\' =>
      advance
      let c ← escape
      stringFrom fuel (c :: read)
    | some c =>
      if c.toNat < 0x20 then failNext .controlInString
      else
        advance
        stringFrom fuel (c :: read)

/-- Reads the rest of a string behind its opening quote. -/
def string : Scan String := do
  stringFrom (← bound) []

/-! ### Numbers -/

/-- The value of a decimal digit. -/
def digitValue (c : Char) : Nat := c.toNat - '0'.toNat

/-- The value of the leading digits as long as it stays below `2^64`, starting from
`value`, and the digits that are left over. -/
def significand (value : Nat) : List Char → Nat × List Char
  | [] => (value, [])
  | c :: rest =>
    let next := value * 10 + digitValue c
    if next < UInt64.size then significand next rest else (value, c :: rest)

/-- `value · 10^exponent` by one multiplication or by repeated division, and none if that
is too large for a double. Powers up to the 308th are at hand. -/
def scale : Nat → Float → Int → Option Float
  | 0, value, _ => some value
  | fuel + 1, value, exponent =>
    if exponent.natAbs ≤ 308 then
      let power := Float.ofScientific 1 false exponent.natAbs
      if 0 ≤ exponent then
        let product := value * power
        if product.isInf then none else some product
      else some (value / power)
    else if value == 0 then some value
    else if 0 ≤ exponent then none
    else scale fuel (value / Float.ofScientific 1 false 308) (exponent + 308)

/-- A double with a sign. -/
def signed (negative : Bool) (value : Float) : Json :=
  .float (if negative then -value else value).toBits

/-- The double `value · 10^exponent`. -/
def scaled (negative : Bool) (value : Nat) (exponent : Int) : Scan Json :=
  match scale (exponent.natAbs / 308 + 2) value.toUInt64.toFloat exponent with
  | some double => pure (signed negative double)
  | none => failHere .numberTooLarge

/-- The value of the digits of an exponent as long as it stays below `2^31`, starting
from `value`; otherwise the number of digits up to the one that is too much. -/
def exponentValue (value count : Nat) : List Char → Except Nat Nat
  | [] => .ok value
  | c :: rest =>
    let next := value * 10 + digitValue c
    if next < 0x80000000 then exponentValue next (count + 1) rest else .error (count + 1)

/-- Whether a character is a decimal digit. -/
def isDigit (c : Char) : Bool := '0' ≤ c && c ≤ '9'

/-- Moves on by `count` characters. -/
def advanceBy : Nat → Scan Unit
  | 0 => pure ()
  | count + 1 => do
    advance
    advanceBy count

/-- Reads an exponent from its letter on, and scales `value · 10^shift` by it. -/
def exponentPart (negative : Bool) (value : Nat) (shift : Int) : Scan Json := do
  advance
  let down ← match ← peek with
    | some '+' => do
      advance
      pure false
    | some '-' => do
      advance
      pure true
    | _ => pure false
  let cursor ← get
  match cursor.rest.takeWhile isDigit with
  | [] => failNext (if cursor.rest.isEmpty then .endInValue else .badNumber)
  | digits =>
    match exponentValue 0 0 digits with
    | .ok exponent =>
      skipWhile isDigit
      scaled negative value (if down then shift - exponent else shift + exponent)
    | .error count =>
      if value ≠ 0 ∧ ¬ down then
        advanceBy count
        failHere .numberTooLarge
      else
        skipWhile isDigit
        return signed negative 0

/-- Reads what may follow the digits of a number that is a double: an exponent. -/
def scaleBy (negative : Bool) (value : Nat) (shift : Int) : Scan Json := do
  match ← peek with
  | some 'e' | some 'E' => exponentPart negative value shift
  | _ => scaled negative value shift

/-- Reads a fraction from its point on; the digits that no longer fit are passed over. -/
def fraction (negative : Bool) (value : Nat) (shift : Int) : Scan Json := do
  advance
  let digits ← takeWhile isDigit
  if digits.isEmpty then
    failNext (if (← peek).isNone then .endInValue else .badNumber)
  else
    let (all, surplus) := significand value digits
    scaleBy negative all (shift - ((digits.length - surplus.length : Nat) : Int))

/-- A number without fraction and exponent. A negative zero and what lies below the
integers of 64 bits are doubles. -/
def whole (negative : Bool) (value : Nat) : Json :=
  if negative then
    if value = 0 ∨ 0x8000000000000000 < value then signed true value.toUInt64.toFloat
    else .int (-value)
  else .int value

/-- Reads what follows the leading digits of a number, `dropped` of which did not fit. -/
def numberFrom (negative : Bool) (value dropped : Nat) : Scan Json := do
  match ← peek with
  | some '.' => fraction negative value dropped
  | some 'e' | some 'E' => exponentPart negative value dropped
  | _ => if dropped = 0 then pure (whole negative value) else scaled negative value dropped

/-- Reads a number behind its sign. -/
def number (negative : Bool) : Scan Json := do
  match ← peek with
  | none => failNext .endInValue
  | some c =>
    if c = '0' then
      advance
      match ← peek with
      | some d => if isDigit d then failNext .badNumber else numberFrom negative 0 0
      | none => numberFrom negative 0 0
    else if isDigit c then
      let (value, surplus) := significand 0 (← takeWhile isDigit)
      numberFrom negative value surplus.length
    else failNext .badNumber

end BriskModules.Json.Scan
