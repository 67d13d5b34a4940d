import BriskModules.Json.Fault

/-!
A place in a JSON text, and steps that move it on.

A `Cursor` knows what has not been read yet and the position of its first character. A
`Scan` is a step that reads something and moves the cursor on, or stops with a cause; the
cursor it stops at is kept, because a cause that has no position yet gets the one that the
surrounding container has reached by then (`located`).

Faults are reported either at the cursor (`failHere`) or behind the next byte
(`failNext`), which is the byte that should not have been there.
-/

namespace BriskModules.Json

/-- The position behind a character. -/
def Position.advance (position : Position) (c : Char) : Position :=
  if c = '\n' then ⟨position.line + 1, 0⟩ else ⟨position.line, position.column + c.utf8Size⟩

/-- The position `count` bytes further on, and none if the text ends before that. -/
def Position.afterBytes : Nat → List Char → Position → Option Position
  | 0, _, position => some position
  | _ + 1, [], _ => none
  | count + 1, c :: rest, position =>
    if c.utf8Size ≤ count + 1 then
      afterBytes (count + 1 - c.utf8Size) rest (position.advance c)
    else some ⟨position.line, position.column + count + 1⟩

/-- What has not been read yet, and where it starts. -/
structure Cursor where
  position : Position
  rest : List Char
deriving Repr

namespace Cursor

/-- The start of a text. -/
def start (text : List Char) : Cursor := ⟨⟨1, 0⟩, text⟩

/-- The position behind the next byte, or the cursor's own at the end of the text. -/
def behindNext (cursor : Cursor) : Position :=
  (Position.afterBytes 1 cursor.rest cursor.position).getD cursor.position

/-- The position behind the whole text. -/
def finish (cursor : Cursor) : Position :=
  cursor.rest.foldl Position.advance cursor.position

end Cursor

/-- Why a step stopped: the position is missing as long as it is not known. -/
structure Stop where
  cause : Cause
  position? : Option Position
deriving Repr

/-- A step that reads something from a text. -/
abbrev Scan (α : Type) := EStateM Stop Cursor α

namespace Scan

/-- Stops without a position. -/
def fail {α : Type} (cause : Cause) : Scan α :=
  throw ⟨cause, none⟩

/-- Stops at the cursor. -/
def failHere {α : Type} (cause : Cause) : Scan α := do
  throw ⟨cause, some (← get).position⟩

/-- Stops behind the next byte. -/
def failNext {α : Type} (cause : Cause) : Scan α := do
  throw ⟨cause, some (← get).behindNext⟩

/-- A step whose causes without a position get the position of the cursor. -/
def located {α : Type} (step : Scan α) : Scan α := fun cursor =>
  match step cursor with
  | .ok value next => .ok value next
  | .error stop next => .error ⟨stop.cause, some (stop.position?.getD next.position)⟩ next

/-- A step followed by another one that runs also when the first one stops. Of two causes
the first one counts, but the cursor is left where the second step ends. -/
def closing {α : Type} (step : Scan α) (close : Scan Unit) : Scan α := fun cursor =>
  match step cursor with
  | .ok value next =>
    match close next with
    | .ok _ last => .ok value last
    | .error stop last => .error stop last
  | .error stop next =>
    match close next with
    | .ok _ last | .error _ last => .error stop last

/-- The next character, without moving on. -/
def peek : Scan (Option Char) := do
  return (← get).rest.head?

/-- Moves on by one character. -/
def advance : Scan Unit :=
  modify fun cursor =>
    match cursor.rest with
    | [] => cursor
    | c :: rest => ⟨cursor.position.advance c, rest⟩

/-- Moves on as long as the next character satisfies `p`. -/
def skipWhile (p : Char → Bool) : Scan Unit :=
  modify fun cursor =>
    ⟨(cursor.rest.takeWhile p).foldl Position.advance cursor.position,
      cursor.rest.dropWhile p⟩

/-- Reads as long as the next character satisfies `p`. -/
def takeWhile (p : Char → Bool) : Scan (List Char) := do
  let taken := (← get).rest.takeWhile p
  skipWhile p
  return taken

/-- Moves on to the next character that is no blank, and returns it. -/
def token : Scan (Option Char) := do
  skipWhile fun c => c = ' ' || c = '\n' || c = '\t' || c = '\r'
  peek

/-- The number of characters left, plus one: a bound on how often one can move on. -/
def bound : Scan Nat := do
  return (← get).rest.length + 1

/-- Reads the characters of `word`. -/
def word : List Char → Scan Unit
  | [] => pure ()
  | expected :: more => do
    match ← peek with
    | none => failNext .endInValue
    | some c =>
      if c = expected then
        advance
        word more
      else failNext .badWord

end Scan

end BriskModules.Json
