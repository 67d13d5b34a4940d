import BriskModules.Diagnostic.Code
import BriskModules.Import.Chain
import BriskModules.Import.Resolution
import BriskModules.Module.Info

/-!
What can be wrong with an import.

The errors are listed in the order in which an import is checked for them. An import whose
module cannot be compiled brings along the diagnostics of that module.

The column of a malformed path in the source is a sum of two columns, and is exact here. It is
meant for paths that end at a column below `2 ^ 64 - 1`.
-/

namespace BriskModules

/-- What is wrong with an import, and where its path stands in the source. -/
inductive ImportError where
  | invalidPath (text : String) (error : ImportPathError) (loc : Loc)
  | outsideRoot (error : OutsideRoot) (loc : Loc)
  | cyclic (target : ModulePath) (chain : ImportChain) (loc : Loc)
  | multiple (target : ModulePath) (loc : Loc)
  | illegalWhitebox (target : ModulePath) (loc : Loc)
  | cannotCompile (target : ModulePath) (failure : CompileFailure) (loc : Loc)
  | program (target : ModulePath) (loc : Loc)
  | illegalInternal (target : ModulePath) (loc : Loc)
deriving DecidableEq, Repr

namespace ImportError

/-- The code of an error. -/
def code : ImportError → String
  | .invalidPath .. => Code.malformedImportPath
  | .outsideRoot .. => Code.outsideSourceRoot
  | .cyclic .. => Code.cyclicImport
  | .multiple .. => Code.multipleImport
  | .illegalWhitebox .. => Code.illegalWhiteboxImport
  | .cannotCompile .. => Code.cannotCompileImport
  | .program .. => Code.programImport
  | .illegalInternal .. => Code.illegalImportOfInternal

/-- Where the path of the import stands. -/
def loc : ImportError → Loc
  | .invalidPath _ _ loc | .outsideRoot _ loc | .cyclic _ _ loc | .multiple _ loc
  | .illegalWhitebox _ loc | .cannotCompile _ _ loc | .program _ loc
  | .illegalInternal _ loc => loc

/-- An error in words. -/
def message : ImportError → String
  | .invalidPath text error _ => "invalid import path '" ++ text ++ "': " ++ error.message
  | .outsideRoot error _ => error.message
  | .cyclic target chain _ =>
    "cyclic import of " ++ target.text ++ ": " ++ chain.text ++ " -> " ++ target.text
  | .multiple target _ => "module " ++ target.text ++ " is imported more than once"
  | .illegalWhitebox target _ => "whitebox import of " ++ target.text ++ " from another package"
  | .cannotCompile target _ _ => "cannot compile imported module " ++ target.text
  | .program target _ => target.text ++ " is a program and cannot be imported"
  | .illegalInternal target _ =>
    "internal module " ++ target.text ++ " cannot be imported from another package"

/-- An error as diagnostics about a file: the error itself, and what is wrong with a module
that could not be compiled. A malformed path is pointed at inside its quotes, at the column of the
path in the source and that of the fault in the path together, which is meant to be below
`2 ^ 64`. -/
def toDiagnostics (error : ImportError) (file : Span) : List Diagnostic :=
  let line := error.loc.line.toNat
  let column := error.loc.column.toNat
  let diagnostic := Diagnostic.error error.code error.message (file.place line column 0)
  match error with
  | .invalidPath _ fault _ =>
    [.error error.code error.message (file.place line (column + fault.column) 1)]
  | .outsideRoot .. => [diagnostic]
  | .cyclic .. =>
    [diagnostic.withHelp "move the shared declarations into a module both sides can import"]
  | .multiple .. => [diagnostic.withHelp "remove the duplicate import"]
  | .illegalWhitebox .. =>
    [diagnostic.withNote "whitebox imports are only allowed within the same package"]
  | .cannotCompile _ failure _ => diagnostic :: failure.diagnostics
  | .program .. => [diagnostic.withNote "only units with a module declaration can be imported"]
  | .illegalInternal .. =>
    [diagnostic.withNote "internal modules are only visible within their own package"]

end ImportError

end BriskModules
