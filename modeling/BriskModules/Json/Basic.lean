/-!
JSON values.

Numbers are integers or doubles, the latter kept as their bits; the members of an object
keep the order in which they were given. The queries below take a value apart by the kind
that is expected of it and give nothing for any other kind.

* `Json.member?` finds a member of an object by its name;
* `Json.depth` bounds how far values are nested in one another.
-/

namespace BriskModules

/-- A JSON value. -/
inductive Json where
  | null
  | bool (value : Bool)
  | int (value : Int)
  /-- A number that is no integer, as the bits of a double. -/
  | float (bits : UInt64)
  | string (value : String)
  | array (elements : List Json)
  | object (members : List (String × Json))
deriving Repr, Inhabited

namespace Json

mutual

/-- How many values are nested in one another, the value itself included. -/
def depth : Json → Nat
  | .array elements => depthOfElements elements + 1
  | .object members => depthOfMembers members + 1
  | _ => 1

/-- The greatest depth of several values. -/
def depthOfElements : List Json → Nat
  | [] => 0
  | value :: rest => max value.depth (depthOfElements rest)

/-- The greatest depth of the values of several members. -/
def depthOfMembers : List (String × Json) → Nat
  | [] => 0
  | (_, value) :: rest => max value.depth (depthOfMembers rest)

end

/-- The members of an object. -/
def members? : Json → Option (List (String × Json))
  | .object members => some members
  | _ => none

/-- The elements of an array. -/
def elements? : Json → Option (List Json)
  | .array elements => some elements
  | _ => none

/-- A text. -/
def string? : Json → Option String
  | .string value => some value
  | _ => none

/-- A truth value. -/
def bool? : Json → Option Bool
  | .bool value => some value
  | _ => none

/-- An integer. -/
def int? : Json → Option Int
  | .int value => some value
  | _ => none

/-- The double next to an integer of 64 bits, as its bits. -/
def doubleOfInt (n : Int) : UInt64 :=
  let magnitude := n.natAbs.toUInt64.toFloat
  (if n < 0 then -magnitude else magnitude).toBits

/-- A double, as its bits; integers count as doubles. -/
def double? : Json → Option UInt64
  | .float bits => some bits
  | .int n => some (doubleOfInt n)
  | _ => none

/-- An integer from `least` to `greatest`. -/
def intWithin? (least greatest : Int) (value : Json) : Option Int :=
  value.int?.filter fun n => least ≤ n && n ≤ greatest

/-- A byte. -/
def byte? (value : Json) : Option UInt8 :=
  (value.intWithin? 0 (UInt8.size - 1)).map fun n => .ofNat n.toNat

/-- A word of 64 bits. -/
def word? (value : Json) : Option UInt64 :=
  (value.intWithin? 0 (UInt64.size - 1)).map fun n => .ofNat n.toNat

/-- A signed word of 64 bits. -/
def signedWord? (value : Json) : Option Int64 :=
  (value.intWithin? Int64.minValue.toInt Int64.maxValue.toInt).map .ofInt

/-- An alternative: its tag, and its content unless the tag stands alone. -/
def alternative? : Json → Option (String × Option Json)
  | .string tag => some (tag, none)
  | .object [(tag, content)] => some (tag, some content)
  | _ => none

/-- An alternative without content. -/
def bare? (value : Json) : Option String :=
  match value.alternative? with
  | some (tag, none) | some (tag, some .null) => some tag
  | _ => none

/-- A member of an object by its name. -/
def member? (members : List (String × Json)) (name : String) : Option Json :=
  members.lookup name

/-- The elements of an array, each decoded. -/
def list? {α : Type} (decode : Json → Option α) (value : Json) : Option (List α) :=
  value.elements?.bind (·.mapM decode)

/-- A value that may be null. -/
def option? {α : Type} (decode : Json → Option α) : Json → Option (Option α)
  | .null => some none
  | value => (decode value).map some

/-- A member that has to be there, decoded. -/
def required? {α : Type} (decode : Json → Option α) (members : List (String × Json))
    (name : String) : Option α :=
  (member? members name).bind decode

/-- A member that may be left out for `default`, decoded. -/
def defaulted? {α : Type} (decode : Json → Option α) (default : α)
    (members : List (String × Json)) (name : String) : Option α :=
  match member? members name with
  | none => some default
  | some value => decode value

/-- Texts as an array. -/
def ofStrings (words : List String) : Json :=
  .array (words.map .string)

/-- A value or null. -/
def ofOption {α : Type} (encode : α → Json) : Option α → Json
  | none => .null
  | some value => encode value

end Json

end BriskModules
