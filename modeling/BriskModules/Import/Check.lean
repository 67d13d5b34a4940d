import BriskModules.Import.Error
import BriskModules.Import.Registry

/-!
Checking the imports of a module.

Imports are checked one after the other, each by itself, so that one that fails does not
stop the others. Compiling an imported module is left to a capability, which may have
effects of its own: the check runs in any monad.

* `checkImports` gives the compiled imports, or all errors.
-/

namespace BriskModules

/-- The target of an import that does not need its module to be compiled to be refused. -/
def importTarget {α : Type} (decl : Import) (current : ModulePath) (imports : Imports α) :
    Except ImportError ModulePath := do
  let path ←
    match ImportPath.parse decl.path with
    | .ok path => pure path
    | .error error => throw (.invalidPath decl.path error decl.pathLoc)
  let target ←
    match path.resolve current with
    | .ok target => pure target
    | .error error => throw (.outsideRoot error decl.pathLoc)
  if imports.chain.contains target then throw (.cyclic target imports.chain decl.pathLoc)
  else if imports.contains target then throw (.multiple target decl.pathLoc)
  else if decl.whitebox ∧ target.package ≠ current.package then
    throw (.illegalWhitebox target decl.pathLoc)
  else return target

/-- Whether a module that an import leads to may be imported. -/
def accept {α : Type} (decl : Import) (current target : ModulePath) :
    CompileResult α → Except ImportError (ModuleInfo α)
  | .error failure => .error (.cannotCompile target failure decl.pathLoc)
  | .ok info =>
    if info.isProgram then .error (.program target decl.pathLoc)
    else if info.isInternal ∧ target.package ≠ current.package then
      .error (.illegalInternal target decl.pathLoc)
    else .ok info

variable {m : Type → Type} [Monad m] {α : Type}

/-- Checks one import. -/
def checkImport (current : ModulePath)
    (require : ModulePath → ImportChain → m (CompileResult α)) (decl : Import)
    (imports : Imports α) : m (Except ImportError (ModulePath × ModuleInfo α)) := do
  match importTarget decl current imports with
  | .error error => return .error error
  | .ok target =>
    let result ← require target (imports.chain.extend target)
    return (accept decl current target result).map (target, ·)

/-- Checks several imports and registers those that succeed. -/
def checkEach (current : ModulePath)
    (require : ModulePath → ImportChain → m (CompileResult α)) :
    List Import → Imports α → m (Imports α × List ImportError)
  | [], imports => return (imports, [])
  | decl :: more, imports => do
    match ← checkImport current require decl imports with
    | .ok (target, info) =>
      checkEach current require more (imports.register decl.localName.id target info)
    | .error error =>
      let (imports, errors) ← checkEach current require more imports
      return (imports, error :: errors)

/-- Checks the imports of a unit as the module `current`, which is the last one of the
chain. -/
def checkImports (unit : CompilationUnit) (current : ModulePath) (chain : ImportChain)
    (require : ModulePath → ImportChain → m (CompileResult α)) :
    m (Except (List ImportError) (Imports α)) := do
  let (imports, errors) ← checkEach current require unit.imports (.empty chain)
  return if errors = [] then .ok imports else .error errors

end BriskModules
