import BriskModules.Export.Context
import BriskModules.Module.Path
import BriskModules.Symbol.Table

/-!
What is known of a module once it has been compiled, and of one that could not be.

The type parameter is what the frontend makes of a checked module.
-/

namespace BriskModules

/-- A compiled module. -/
@[ext]
structure ModuleInfo (α : Type) where
  path : ModulePath
  file : FileName
  /-- The targets of the imports in the order of the source. -/
  imports : List ModulePath
  /-- The specification, or none for a program. -/
  spec : Option ModuleSpec
  symbols : SymbolTable
  exports : ExportContext
  /-- Singletons that importers see. -/
  singletons : NameSet
  /-- Types that importers see by name only. -/
  abstractTypes : NameSet
  /-- What the frontend made of the module. -/
  checked : α

namespace ModuleInfo

variable {α : Type}

/-- Whether it is a program. -/
def isProgram (info : ModuleInfo α) : Bool := info.spec.isNone

/-- Whether it is internal to its package. -/
def isInternal (info : ModuleInfo α) : Bool := info.spec.any (·.isInternal)

/-- The names that importers see. -/
def exportScope (info : ModuleInfo α) : NameSet := info.exports.exportScope

end ModuleInfo

/-- A module that could not be compiled, and why. -/
structure CompileFailure where
  module : ModulePath
  diagnostics : List Diagnostic
deriving DecidableEq, Repr

/-- A failure in words. -/
def CompileFailure.message (failure : CompileFailure) : String :=
  "cannot compile module " ++ failure.module.text

/-- What becomes of a module. -/
abbrev CompileResult (α : Type) := Except CompileFailure (ModuleInfo α)

end BriskModules
