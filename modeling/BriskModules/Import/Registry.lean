import BriskModules.Import.Chain
import BriskModules.Module.Info

/-!
The compiled imports of one module.

Modules are kept under their paths and under the local names of the imports, in the order
of the source. A path that is registered again keeps its first module, and a pair of local
name and path is kept once.

* `Imports.register` adds an import;
* `get?` and `module?` find a module by local name and by path.
-/

namespace BriskModules

/-- The compiled imports of one module. -/
structure Imports (α : Type) where
  /-- The modules on whose behalf the imports are compiled. -/
  chain : ImportChain
  modules : Std.ExtTreeMap ModulePath (ModuleInfo α)
  /-- Local names with the paths they stand for, in the order of the source. -/
  localNames : List (String × ModulePath)
  /-- The paths of internal modules. -/
  internal : ModuleSet

namespace Imports

variable {α : Type}

/-- No imports yet. -/
def empty (chain : ImportChain) : Imports α := ⟨chain, ∅, [], ∅⟩

/-- Adds a compiled module under a local name and a path. -/
def register (imports : Imports α) (localName : String) (path : ModulePath)
    (info : ModuleInfo α) : Imports α where
  chain := imports.chain
  modules := imports.modules.insertIfNew path info
  localNames :=
    if (localName, path) ∈ imports.localNames then imports.localNames
    else imports.localNames ++ [(localName, path)]
  internal := if info.isInternal then imports.internal.insert path else imports.internal

/-- Whether a path has been registered. -/
def contains (imports : Imports α) (path : ModulePath) : Bool := imports.modules.contains path

/-- The number of modules. -/
def size (imports : Imports α) : Nat := imports.modules.size

/-- The module at a path. -/
def module? (imports : Imports α) (path : ModulePath) : Option (ModuleInfo α) :=
  imports.modules[path]?

/-- The module imported under a local name. -/
def get? (imports : Imports α) (localName : String) : Option (ModuleInfo α) :=
  (imports.localNames.lookup localName).bind imports.module?

/-- The paths of the imports in the order of the source. -/
def paths (imports : Imports α) : List ModulePath := imports.localNames.map (·.2)

/-- The imports in the order of the source. -/
def inOrder (imports : Imports α) : List (ModulePath × ModuleInfo α) :=
  imports.paths.filterMap fun path => (imports.module? path).map (path, ·)

/-- The names of each module, by path. -/
def symbolTables (imports : Imports α) : List (ModulePath × SymbolTable) :=
  imports.modules.toList.map fun (path, info) => (path, info.symbols)

/-- The export scope of each module, by path. -/
def exportScopes (imports : Imports α) : List (ModulePath × NameSet) :=
  imports.modules.toList.map fun (path, info) => (path, info.exportScope)

/-- The singletons of the imports in the order of the source. -/
def singletons (imports : Imports α) : List (ModulePath × String) :=
  imports.inOrder.flatMap fun (path, info) => info.singletons.toList.map (path, ·)

/-- The abstract types of the imports in the order of the source. -/
def abstractTypes (imports : Imports α) : List (ModulePath × String) :=
  imports.inOrder.flatMap fun (path, info) => info.abstractTypes.toList.map (path, ·)

/-- What the frontend made of the imports, in the order of the source. -/
def artifacts (imports : Imports α) : List α := imports.inOrder.map (·.2.checked)

end Imports

end BriskModules
