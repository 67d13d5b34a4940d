/-!
Shapes: what a JSON text has to look like to be read as data of a certain type.

Types of data may contain one another, so a shape refers to records and choices by name
and a schema says what each name stands for. A record is an object with known fields; a
choice is one of several named variants, written as its name alone or as an object with
the name as its only member.
-/

namespace BriskModules.Json

/-- A range of integers and its name. -/
structure IntegerKind where
  title : String
  least : Int
  greatest : Int
deriving DecidableEq, Repr

namespace IntegerKind

/-- Unsigned bytes. -/
def byte : IntegerKind := ⟨"u8", 0, UInt8.size - 1⟩

/-- Unsigned words of 64 bits. -/
def word : IntegerKind := ⟨"u64", 0, UInt64.size - 1⟩

/-- Sizes and positions, which are words of 64 bits. -/
def size : IntegerKind := ⟨"usize", 0, UInt64.size - 1⟩

/-- Signed words of 64 bits. -/
def signedWord : IntegerKind := ⟨"i64", Int64.minValue.toInt, Int64.maxValue.toInt⟩

/-- Whether an integer is in the range. -/
def contains (kind : IntegerKind) (n : Int) : Bool :=
  kind.least ≤ n && n ≤ kind.greatest

end IntegerKind

/-- What a JSON text has to look like; `ν` are the names of records and choices. -/
inductive Shape (ν : Type) where
  | bool
  | string
  | integer (kind : IntegerKind)
  | float
  /-- Null, or what the content looks like. -/
  | option (content : Shape ν)
  | list (element : Shape ν)
  | pair (first second : Shape ν)
  | named (name : ν)
deriving Repr

/-- What happens when a field is left out. -/
inductive Presence where
  /-- It must not be. -/
  | required
  /-- In an object it counts as null; in an array it must not be left out. -/
  | nullable
  /-- It gets its default. -/
  | defaulted
deriving DecidableEq, Repr

/-- A field of a record. -/
structure Field (ν : Type) where
  name : String
  shape : Shape ν
  presence : Presence
deriving Repr

/-- What a variant carries. -/
inductive Payload (ν : Type) where
  | nothing
  /-- One value. -/
  | value (shape : Shape ν)
  /-- The fields of a record. -/
  | fields (record : ν)
deriving Repr

/-- One of the alternatives of a choice. -/
structure Variant (ν : Type) where
  name : String
  payload : Payload ν
deriving Repr

/-- What a name stands for. A record has a title for messages. -/
inductive Definition (ν : Type) where
  | record (title : String) (fields : List (Field ν))
  | choice (variants : List (Variant ν))
deriving Repr

/-- What each name stands for. -/
abbrev Schema (ν : Type) := ν → Definition ν

end BriskModules.Json
