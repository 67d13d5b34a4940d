import BriskModules.Import.Path
import BriskModules.Module.Path

/-!
The module that an import path leads to.

Import paths are relative to the module that contains them. Going up takes as many
directories off as there are steps, and must not leave the source root.

* `ImportPath.resolve` finds the target of an import path;
* `resolveImport` reads the text of an import and finds its target;
* `ModulePath.parse` reads a module path in the form in which it is written.
-/

namespace BriskModules

/-- An import path that goes up further than its module has directories. -/
structure OutsideRoot where
  target : ImportPath
  levels : Nat
  current : ModulePath
deriving DecidableEq, Repr

/-- The error in words. -/
def OutsideRoot.message (error : OutsideRoot) : String :=
  "'" ++ error.target.text ++ "' ascends " ++ toString error.levels ++ " level" ++
    (if error.levels = 1 then "" else "s") ++ " from '" ++ error.current.text ++
    "', outside the source root"

/-- The module that an import path in the module `current` leads to. -/
def ImportPath.resolve (path : ImportPath) (current : ModulePath) :
    Except OutsideRoot ModulePath :=
  match path.start with
  | .package name => .ok ⟨some name, path.dirs, path.file⟩
  | .root => .ok ⟨current.package, path.dirs, path.file⟩
  | .up levels =>
    if current.dirs.length < levels then .error ⟨path, levels, current⟩
    else
      let kept := current.dirs.take (current.dirs.length - levels)
      .ok ⟨current.package, kept ++ path.dirs, path.file⟩
  | .here => .ok ⟨current.package, current.dirs ++ path.dirs, path.file⟩

/-- Why the text of an import leads to no module. -/
inductive ImportTargetError where
  | malformed (error : ImportPathError)
  | outsideRoot (error : OutsideRoot)
deriving DecidableEq, Repr

/-- The error in words. -/
def ImportTargetError.message : ImportTargetError → String
  | .malformed error => error.message
  | .outsideRoot error => error.message

/-- The module that the text of an import in the module `current` leads to. -/
def resolveImport (current : ModulePath) (text : String) :
    Except ImportTargetError ModulePath :=
  match ImportPath.parse text with
  | .error error => .error (.malformed error)
  | .ok path =>
    match path.resolve current with
    | .error error => .error (.outsideRoot error)
    | .ok target => .ok target

/-- Why a text is no module path. -/
inductive ModulePathError where
  | malformed (error : ImportPathError)
  /-- It names a module only from the view of another one. -/
  | relative (text : String)
deriving DecidableEq, Repr

/-- The error in words. -/
def ModulePathError.message : ModulePathError → String
  | .malformed error => "malformed module path: " ++ error.message
  | .relative text =>
    "module path '" ++ text ++ "' must have the form dir/file or @package/dir/file"

/-- Reads a module path: `dir/file`, or `@package/dir/file`. -/
def ModulePath.parse (text : String) : Except ModulePathError ModulePath :=
  match ImportPath.parse text with
  | .error error => .error (.malformed error)
  | .ok ⟨.package name, dirs, file⟩ => .ok ⟨some name, dirs, file⟩
  | .ok ⟨.here, dirs, file⟩ =>
    if "./".toList.isPrefixOf text.toList then .error (.relative text)
    else .ok ⟨none, dirs, file⟩
  | .ok _ => .error (.relative text)

end BriskModules
