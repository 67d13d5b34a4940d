import BriskModules.Json.Reader

/-!
The manifest of a package: its name, its source root and its search paths, as far as they
are not the usual ones.

* `Manifest.ofText` reads a manifest from a text.
-/

namespace BriskModules

/-- What a manifest says. -/
structure Manifest where
  name : Option String := none
  sourceRoot : Option String := none
  sourcePath : Option String := none
  interfacePath : Option String := none
deriving DecidableEq, Repr, Inhabited

namespace Manifest

open Json (defaulted? option?)

/-- What the text of a manifest has to look like. -/
def schema : Json.Schema Unit := fun _ =>
  .record "struct Manifest"
    (["name", "sourceRoot", "sourcePath", "interfacePath"].map fun name =>
      ⟨name, .option .string, .defaulted⟩)

/-- A manifest from a JSON value. -/
def ofJson? (value : Json) : Option Manifest := do
  let members ← value.members?
  return ⟨← defaulted? (option? Json.string?) none members "name",
    ← defaulted? (option? Json.string?) none members "sourceRoot",
    ← defaulted? (option? Json.string?) none members "sourcePath",
    ← defaulted? (option? Json.string?) none members "interfacePath"⟩

/-- Reads a manifest from a text. -/
def ofText (text : String) : Except Json.Fault Manifest :=
  Json.readAs schema (.named ()) ofJson? text

end Manifest

end BriskModules
