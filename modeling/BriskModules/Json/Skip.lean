import BriskModules.Json.Lexeme

/-!
Passing over a JSON value that nobody asked for.

Values under unknown names are checked to be well-formed and are not kept. They may be
nested to any depth, so the containers around the current place are a list and not a
recursion. The check is more tolerant than reading in what escapes may stand for, since
a numeric escape only has to have its four digits.
-/

namespace BriskModules.Json.Scan

/-- Passes over the rest of a string behind its opening quote. -/
def skipStringFrom : Nat → Scan Unit
  | 0 => failHere .endInString
  | fuel + 1 => do
    match ← peek with
    | none => failHere .endInString
    | some '"' => advance
    | some '\\' =>
      advance
      match ← peek with
      | none => failHere .endInString
      | some 'u' =>
        advance
        discard hexEscape
        skipStringFrom fuel
      | some c =>
        if (simpleEscape? c).isSome then
          advance
          skipStringFrom fuel
        else failNext .badEscape
    | some c =>
      if c.toNat < 0x20 then failHere .controlInString
      else
        advance
        skipStringFrom fuel

/-- Passes over the rest of a string behind its opening quote. -/
def skipString : Scan Unit := do
  skipStringFrom (← bound)

/-- Passes over an exponent from its letter on. -/
def skipExponent : Scan Unit := do
  advance
  match ← peek with
  | some '+' | some '-' => advance
  | _ => pure ()
  match ← peek with
  | some c => if isDigit c then skipWhile isDigit else failNext .badNumber
  | none => failNext .badNumber

/-- Passes over a fraction from its point on, and over what follows it. -/
def skipFraction : Scan Unit := do
  advance
  let digits ← takeWhile isDigit
  if digits.isEmpty then failNext .badNumber
  else
    match ← peek with
    | some 'e' | some 'E' => skipExponent
    | _ => pure ()

/-- Passes over a number behind its sign. -/
def skipNumber : Scan Unit := do
  match ← peek with
  | none => failNext .badNumber
  | some c =>
    if c = '0' then
      advance
      match ← peek with
      | some d => if isDigit d then failNext .badNumber
      | none => pure ()
    else if isDigit c then skipWhile isDigit
    else failNext .badNumber
    match ← peek with
    | some '.' => skipFraction
    | some 'e' | some 'E' => skipExponent
    | _ => pure ()

/-- The two kinds of containers. -/
inductive Container where
  | list
  | object
deriving DecidableEq, Repr

namespace Container

/-- The character that ends a container. -/
def closer : Container → Char
  | .list => ']'
  | .object => '\x7d'

/-- The cause when the text ends in a container. -/
def cutOff : Container → Cause
  | .list => .endInList
  | .object => .endInObject

/-- The cause when the elements of a container are not separated. -/
def unseparated : Container → Cause
  | .list => .listCommaMissing
  | .object => .objectCommaMissing

end Container

/-- Passes over a name in an object and the colon behind it. -/
def skipName : Scan Unit := do
  match ← token with
  | some '"' =>
    advance
    skipString
    match ← token with
    | some ':' => advance
    | some _ => failNext .colonMissing
    | none => failNext .endInObject
  | some _ => failNext .keyNotString
  | none => failNext .endInObject

/-- Passes over the ends of containers behind a value, or behind the opening of the
innermost container if `opened`. Returns the containers in which a value follows; none
are left when the outermost value has ended. -/
def skipEnds (opened : Bool) : List Container → Scan (List Container)
  | [] => pure []
  | container :: outer => do
    match ← token with
    | none => failNext container.cutOff
    | some c =>
      if c = ',' ∧ ¬ opened then
        advance
        pure (container :: outer)
      else if c = container.closer then
        advance
        skipEnds false outer
      else if opened then pure (container :: outer)
      else failNext container.unseparated

/-- Passes over values until no container is left. -/
def skipValues : Nat → List Container → Scan Unit
  | 0, _ => failNext .endInValue
  | fuel + 1, containers => do
    let opened : Option Container ← match ← token with
      | none => failNext .endInValue
      | some c =>
        if c = 'n' then do
          advance
          word ['u', 'l', 'l']
          pure none
        else if c = 't' then do
          advance
          word ['r', 'u', 'e']
          pure none
        else if c = 'f' then do
          advance
          word ['a', 'l', 's', 'e']
          pure none
        else if c = '-' then do
          advance
          skipNumber
          pure none
        else if isDigit c then do
          skipNumber
          pure none
        else if c = '"' then do
          advance
          skipString
          pure none
        else if c = '[' then do
          advance
          pure (some .list)
        else if c = '\x7b' then do
          advance
          pure (some .object)
        else failNext .valueMissing
    let left ← skipEnds opened.isSome (opened.toList ++ containers)
    match left with
    | [] => pure ()
    | .list :: _ => skipValues fuel left
    | .object :: _ =>
      skipName
      skipValues fuel left

/-- Passes over one value. -/
def skipValue : Scan Unit := do
  skipValues (← bound) []

end BriskModules.Json.Scan
