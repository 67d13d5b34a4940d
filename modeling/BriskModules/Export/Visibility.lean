/-!
How much of a declaration the place of a reference reveals.

What is exposed is revealed to importers: a value fully, and any other declaration by the
names it is made of. Names that are revealed fully must be accessible themselves; what is
revealed by name only may stay opaque.

* `strengthen` is for values that are known when compiling, such as the sizes of arrays;
* `weaken` is for the bodies of subprograms.
-/

namespace BriskModules

/-- How much a place reveals of what it refers to. -/
inductive Visibility where
  /-- Everything. -/
  | transparent
  /-- The name only. -/
  | semitransparent
  /-- Nothing. -/
  | invisible
deriving DecidableEq, Repr, Inhabited

namespace Visibility

/-- What is revealed by name only becomes revealed fully. -/
def strengthen : Visibility → Visibility
  | .semitransparent => .transparent
  | visibility => visibility

/-- What is revealed by name only becomes unrevealed. -/
def weaken : Visibility → Visibility
  | .semitransparent => .invisible
  | visibility => visibility

/-- Where a value starts: constants, parameters and variables. -/
def ofValue (exposed : Bool) : Visibility :=
  if exposed then .transparent else .invisible

/-- Where any other declaration starts: types, subprograms and prototypes. -/
def ofDeclaration (exposed : Bool) : Visibility :=
  if exposed then .semitransparent else .invisible

/-- A visibility in one word. -/
def text : Visibility → String
  | .transparent => "transparent"
  | .semitransparent => "semitransparent"
  | .invisible => "invisible"

end Visibility

end BriskModules
