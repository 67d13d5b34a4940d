import BriskModules.Symbol.NameSet
import BriskModules.Syntax.Tree

/-!
The names of a compilation unit: which are declared in it, which it exposes and which come
from imports.

Declarations at top level shadow imported names, and the local name of an imported module
shadows a member that an import exposes under the same name. Of several imports that
expose a name the last one counts.

* `SymbolTable.ofUnit` collects the names of a unit;
* `importedAs?` tells what an imported name refers to;
* `declaringName` is the name by which a referenced declaration is known.
-/

namespace BriskModules

/-- What an imported name refers to. -/
inductive ImportedName where
  /-- The module of which it is the local name. -/
  | wholeModule
  /-- A member that the import with a local name exposes. -/
  | member (owner : String)
deriving DecidableEq, Repr

/-- The names of a compilation unit. -/
structure SymbolTable where
  /-- Names declared at top level. -/
  toplevel : NameSet
  /-- Names that the unit exposes. -/
  exposed : NameSet
  /-- Local names of imports. -/
  modules : NameSet
  /-- Names that imports expose, with the local name of the import. -/
  members : NameMap String
deriving DecidableEq

namespace SymbolTable

/-- No names at all. -/
def empty : SymbolTable := ⟨∅, ∅, ∅, ∅⟩

/-- The names exposed by the imports of a unit, with the local names of the imports. -/
def exposedMembers (imports : List Import) : List (String × String) :=
  imports.flatMap fun decl => decl.exposing.map fun name => (name.id, decl.localName.id)

/-- The names of a unit. -/
def ofUnit (unit : CompilationUnit) : SymbolTable where
  toplevel := .ofNames (unit.members.map (·.name.id))
  exposed := .ofNames unit.exposes
  modules := .ofNames (unit.imports.map (·.localName.id))
  members := (exposedMembers unit.imports).foldl
    (fun members (name, owner) => members.insert name owner) ∅

/-- Whether a name is declared at top level. -/
def isToplevel (table : SymbolTable) (name : String) : Bool := table.toplevel.contains name

/-- Whether a name is exposed. -/
def isExposed (table : SymbolTable) (name : String) : Bool := table.exposed.contains name

/-- Whether a name is declared at top level and not exposed. -/
def isHidden (table : SymbolTable) (name : String) : Bool :=
  table.isToplevel name && !table.isExposed name

/-- What a name refers to if it comes from an import. -/
def importedAs? (table : SymbolTable) (name : String) : Option ImportedName :=
  if table.toplevel.contains name then none
  else if table.modules.contains name then some .wholeModule
  else table.members[name]?.map .member

/-- The local name of the module that a name comes from, if it comes from an import. -/
def owner? (table : SymbolTable) (name : String) : Option String :=
  (table.importedAs? name).map fun
    | .wholeModule => name
    | .member owner => owner

/-- The name by which the declaration at the end of a path is known, such as `m.T`. -/
def declaringName (table : SymbolTable) : List String → String
  | [] => ""
  | first :: rest =>
    match table.importedAs? first with
    | some .wholeModule =>
      match rest with
      | member :: _ => first ++ "." ++ member
      | [] => first
    | some (.member owner) => owner ++ "." ++ first
    | none => first

end SymbolTable

end BriskModules
