import BriskModules.Json.Shape
import BriskModules.Json.Skip

/-!
Reading a JSON text as a value of a given shape.

The shape decides what is read: a value of another kind is a fault at the place where it
stands, and so is a field that is missing, given twice or too much. Records are objects,
whose unknown members are passed over, or arrays with the fields in their order; the
result has them as objects either way. Containers may be nested up to a limit, and the
depth that is left is what the recursion goes by.

A container is read to its end even when something inside of it is wrong, since a cause
without a position of its own is reported where the reader stands after that.

* `readAs` reads a whole text.
-/

namespace BriskModules.Json

open Scan

namespace Scan

/-- The value that starts at the cursor, as what was found in place of `expected`. -/
def mismatch {α : Type} (expected : String) : Scan α :=
  located do
    match ← peek with
    | none => failNext .valueMissing
    | some c =>
      if c = 'n' then
        advance
        word ['u', 'l', 'l']
        fail (.invalidType .null expected)
      else if c = 't' then
        advance
        word ['r', 'u', 'e']
        fail (.invalidType (.bool true) expected)
      else if c = 'f' then
        advance
        word ['a', 'l', 's', 'e']
        fail (.invalidType (.bool false) expected)
      else if c = '-' ∨ isDigit c then
        if c = '-' then advance
        match ← number (c = '-') with
        | .int n => fail (.invalidType (.integer n) expected)
        | .float bits => fail (.invalidType (.float bits) expected)
        | _ => fail .unfit
      else if c = '"' then
        advance
        let text ← string
        fail (.invalidType (.string text) expected)
      else if c = '[' then fail (.invalidType .sequence expected)
      else if c = '\x7b' then fail (.invalidType .map expected)
      else failNext .valueMissing

/-- Moves on to a value and tells its first character. -/
def valueStart : Scan Char := do
  match ← token with
  | none => failNext .endInValue
  | some c => return c

/-- Reads a truth value. -/
def readBool : Scan Json := do
  let c ← valueStart
  if c = 't' then
    advance
    word ['r', 'u', 'e']
    return .bool true
  else if c = 'f' then
    advance
    word ['a', 'l', 's', 'e']
    return .bool false
  else mismatch "a boolean"

/-- Reads a string. -/
def readString (expected : String) : Scan String := do
  let c ← valueStart
  if c = '"' then
    advance
    string
  else mismatch expected

/-- Reads a number of any kind, in place of `expected`. -/
def readNumber (expected : String) : Scan Json := do
  let c ← valueStart
  if c = '-' then
    advance
    number true
  else if isDigit c then number false
  else mismatch expected

/-- Reads an integer of a kind. -/
def readInteger (kind : IntegerKind) : Scan Json :=
  located do
    match ← readNumber kind.title with
    | .int n =>
      if kind.contains n then return .int n
      else fail (.invalidValue (.integer n) kind.title)
    | .float bits => fail (.invalidType (.float bits) kind.title)
    | _ => fail .unfit

/-- Reads a double; integers count as doubles. -/
def readFloat : Scan Json := do
  match ← readNumber "f64" with
  | .int n => return .float (doubleOfInt n)
  | value => return value

/-- Reads a null in place of `unit`. -/
def readUnit : Scan Unit := do
  let c ← valueStart
  if c = 'n' then
    advance
    word ['u', 'l', 'l']
  else mismatch "unit"

/-- Reads the colon behind a name. -/
def readColon : Scan Unit := do
  match ← token with
  | some ':' => advance
  | some _ => failNext .colonMissing
  | none => failNext .endInObject

/-! ### Containers -/

/-- Moves on to the next element of a list and tells whether there is one. -/
def nextElement (first : Bool) : Scan Bool := do
  match ← token with
  | none => failNext .endInList
  | some c =>
    if c = ']' then return false
    else if first then return true
    else if c = ',' then
      advance
      match ← token with
      | none => failNext .endInValue
      | some ']' => failNext .trailingComma
      | some _ => return true
    else failNext .listCommaMissing

/-- Moves on to the next name in an object and tells whether there is one. -/
def nextName (first : Bool) : Scan Bool := do
  match ← token with
  | none => failNext .endInObject
  | some c =>
    if c = '\x7d' then return false
    else if first then
      if c = '"' then return true else failNext .keyNotString
    else if c = ',' then
      advance
      match ← token with
      | none => failNext .endInValue
      | some '"' => return true
      | some '\x7d' => failNext .trailingComma
      | some _ => failNext .keyNotString
    else failNext .objectCommaMissing

/-- Reads the end of a list. -/
def endList : Scan Unit := do
  match ← token with
  | some ']' => advance
  | some ',' =>
    advance
    match ← token with
    | some ']' => failNext .trailingComma
    | _ => failNext .trailingText
  | some _ => failNext .trailingText
  | none => failNext .endInList

/-- Reads the end of an object. -/
def endObject : Scan Unit := do
  match ← token with
  | some '\x7d' => advance
  | some ',' => failNext .trailingComma
  | some _ => failNext .trailingText
  | none => failNext .endInObject

/-- Reads the elements of a list from the cursor on. -/
def elements (element : Scan Json) : Nat → Bool → Scan (List Json)
  | 0, _ => failNext .endInList
  | fuel + 1, first => do
    if ← nextElement first then
      let value ← element
      return value :: (← elements element fuel false)
    else return []

variable {ν : Type}

/-- How containers are read: what reads the values inside, and none if containers may not
be nested any deeper. -/
abbrev Inside (ν : Type) := Option (Shape ν → Scan Json)

/-- Moves into a container, if it may be nested any deeper. -/
def enter {α : Type} (inside : Inside ν) (body : (Shape ν → Scan Json) → Scan α) : Scan α := do
  match inside with
  | none => failNext .tooDeep
  | some inner =>
    advance
    body inner

/-- Reads a list. -/
def readList (inside : Inside ν) (element : Shape ν) : Scan Json :=
  located do
    let c ← valueStart
    if c = '[' then
      enter inside fun inner => do
        let values ← closing (do elements (inner element) (← bound) true) endList
        return .array values
    else mismatch "a sequence"

/-- Reads one of two elements of a pair. -/
def pairElement (inner : Shape ν → Scan Json) (shape : Shape ν) (index : Nat) : Scan Json := do
  if ← nextElement (index = 0) then inner shape
  else fail (.invalidLength index "a tuple of size 2")

/-- Reads a pair. -/
def readPair (inside : Inside ν) (first second : Shape ν) : Scan Json :=
  located do
    let c ← valueStart
    if c = '[' then
      enter inside fun inner =>
        closing
          (do
            let a ← pairElement inner first 0
            let b ← pairElement inner second 1
            return .array [a, b])
          endList
    else mismatch "a tuple of size 2"

/-- Reads the fields of a record as the elements of an array. -/
def fieldsInOrder (inner : Shape ν → Scan Json) (expected : String) :
    Nat → List (Field ν) → Scan (List (String × Json))
  | _, [] => pure []
  | index, field :: more => do
    if ← nextElement (index = 0) then
      let value ← inner field.shape
      return (field.name, value) :: (← fieldsInOrder inner expected (index + 1) more)
    else if field.presence = .defaulted then
      fieldsInOrder inner expected (index + 1) more
    else fail (.invalidLength index expected)

/-- Reads the members of a record as the members of an object; `known` are those that have
been read before. -/
def membersOf (inner : Shape ν → Scan Json) (fields : List (Field ν)) :
    Nat → Bool → List (String × Json) → Scan (List (String × Json))
  | 0, _, _ => failNext .endInObject
  | fuel + 1, first, known => do
    if ← nextName first then
      advance
      let name ← string
      match fields.find? (·.name = name) with
      | some field =>
        if (member? known name).isSome then fail (.duplicateField name)
        else
          readColon
          let value ← inner field.shape
          membersOf inner fields fuel false (known ++ [(name, value)])
      | none =>
        readColon
        skipValue
        membersOf inner fields fuel false known
    else return known

/-- The first field that had to be there and is not. -/
def missingField? (fields : List (Field ν)) (known : List (String × Json)) : Option (Field ν) :=
  fields.find? fun field => field.presence = .required && (member? known field.name).isNone

/-- Reads the fields of a record as an object. -/
def fieldsByName (inner : Shape ν → Scan Json) (fields : List (Field ν)) :
    Scan (List (String × Json)) := do
  let known ← membersOf inner fields (← bound) true []
  match missingField? fields known with
  | some field => fail (.missingField field.name)
  | none => return known

/-- The number of fields of a record, in words. -/
def elementCount (count : Nat) : String :=
  toString count ++ if count = 1 then " element" else " elements"

/-- Reads a record. -/
def readRecord (inside : Inside ν) (title : String) (fields : List (Field ν)) : Scan Json :=
  located do
    let c ← valueStart
    if c = '[' then
      enter inside fun inner => do
        let expected := title ++ " with " ++ elementCount fields.length
        return .object (← closing (fieldsInOrder inner expected 0 fields) endList)
    else if c = '\x7b' then
      enter inside fun inner => do
        return .object (← closing (fieldsByName inner fields) endObject)
    else mismatch title

/-- Moves on to the name of a variant in an object, which must have one. -/
def variantStart : Scan Unit := do
  match ← token with
  | some '"' => pure ()
  | some '\x7d' => failNext .valueMissing
  | some _ => failNext .keyNotString
  | none => failNext .endInObject

/-- Reads the name of a variant from its opening quote on. -/
def variantName (variants : List (Variant ν)) : Scan (Variant ν) :=
  located do
    advance
    let name ← string
    match variants.find? (·.name = name) with
    | some variant => return variant
    | none => fail (.unknownVariant name (variants.map (·.name)))

/-- Reads what a variant carries. -/
def readPayload (inner : Shape ν → Scan Json) (variant : Variant ν) : Scan Json :=
  match variant.payload with
  | .nothing => do
    readUnit
    return .string variant.name
  | .value shape => do
    return .object [(variant.name, ← inner shape)]
  | .fields record => do
    return .object [(variant.name, ← inner (.named record))]

/-- Reads a choice. -/
def readChoice (inside : Inside ν) (variants : List (Variant ν)) : Scan Json := do
  let c ← valueStart
  if c = '\x7b' then
    enter inside fun inner => do
      variantStart
      let variant ← variantName variants
      readColon
      let value ← readPayload inner variant
      match ← token with
      | some '\x7d' =>
        advance
        return value
      | some _ => failHere .valueMissing
      | none => failHere .endInObject
  else if c = '"' then
    let variant ← variantName variants
    match variant.payload with
    | .nothing => return .string variant.name
    | .value _ => fail (.invalidType .bareVariant "newtype variant")
    | .fields _ => fail (.invalidType .bareVariant "struct variant")
  else failNext .valueMissing

/-! ### Shapes -/

/-- Reads a value of a shape. -/
def readShape (schema : Schema ν) (inside : Inside ν) : Shape ν → Scan Json
  | .bool => readBool
  | .string => do return .string (← readString "a string")
  | .integer kind => readInteger kind
  | .float => readFloat
  | .option content => do
    match ← token with
    | some 'n' =>
      advance
      word ['u', 'l', 'l']
      return .null
    | _ => readShape schema inside content
  | .list element => readList inside element
  | .pair first second => readPair inside first second
  | .named name =>
    match schema name with
    | .record title fields => readRecord inside title fields
    | .choice variants => readChoice inside variants

/-- Reads a value of a shape in which containers are nested at most `depth` deep. -/
def readWithin (schema : Schema ν) : Nat → Shape ν → Scan Json
  | 0 => readShape schema none
  | depth + 1 => readShape schema (some (readWithin schema depth))

/-- Reads a value of a shape and the end of the text. -/
def readAll (schema : Schema ν) (depth : Nat) (shape : Shape ν) : Scan Json := do
  let value ← readWithin schema depth shape
  match ← token with
  | none => return value
  | some _ => failNext .trailingText

end Scan

/-- How deep containers may be nested. -/
def depthLimit : Nat := 127

/-- Reads a text as a value of a shape and as data of a type. -/
def readAs {ν α : Type} (schema : Schema ν) (shape : Shape ν) (decode : Json → Option α)
    (text : String) : Except Fault α :=
  match readAll schema depthLimit shape (Cursor.start text.toList) with
  | .ok value last =>
    match decode value with
    | some data => .ok data
    | none => .error ⟨.unfit, last.position⟩
  | .error stop last => .error ⟨stop.cause, stop.position?.getD last.position⟩

end BriskModules.Json
