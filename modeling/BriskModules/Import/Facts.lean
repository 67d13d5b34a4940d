import BriskModules.Import.Registry
import BriskModules.Symbol.Facts

/-!
The facts that a unit gets from its imports.

What an import exports is known under the local name of the import, and under its own name
if the import exposes it.

* `Facts.collect` are the facts of a unit and of all its imports.
-/

namespace BriskModules.Facts

/-- The names under which an import makes names of its module known. -/
def importedNames (decl : Import) (names : NameSet) : List String :=
  names.toList.map (fun name => decl.localName.id ++ "." ++ name) ++
    (decl.exposing.map (·.id)).filter names.contains

/-- The facts with those of one import in addition. -/
def addImport {α : Type} (imports : Imports α) (facts : Facts) (decl : Import) : Facts :=
  match imports.get? decl.localName.id with
  | none => facts
  | some info =>
    ⟨facts.singletons.insertAll (importedNames decl info.singletons),
      facts.abstractTypes.insertAll (importedNames decl info.abstractTypes)⟩

/-- The facts of a unit and of all its imports. -/
def collect {α : Type} (unit : CompilationUnit) (imports : Imports α) : Facts :=
  unit.imports.foldl (addImport imports) (.ofUnit unit)

end BriskModules.Facts
