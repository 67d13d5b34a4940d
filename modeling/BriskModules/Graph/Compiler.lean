import BriskModules.Export.Inference
import BriskModules.Graph.Cache
import BriskModules.Graph.Frontend
import BriskModules.Import.Check
import BriskModules.Import.Facts
import BriskModules.Module.Derivation
import BriskModules.Package.Options

/-!
Compiling modules and everything they import.

A module is located on the search paths, read, parsed, its imports are checked, which
compiles them first, its exports are inferred, and the frontend checks it. Every module
goes through the cache, so that each is compiled once. A journal keeps record of what was
required, parsed, refused and checked.

Compiling follows the imports from module to module. Since a module that is being compiled
is refused as an import, modules are nested no deeper than there are files to find, and the
recursion goes by a bound on that.

* `Compiler.compileFile` compiles a file as the outermost module;
* `Compiler.require` compiles a module on behalf of others;
* `Compiler.locate` finds the file of a module.
-/

namespace BriskModules

/-- What a compiler did, in the order in which it did so. -/
inductive Event (α : Type) where
  /-- A module was required at the end of a chain, while some modules were running. -/
  | required (path : ModulePath) (chain : ImportChain) (running : List ModulePath)
  /-- The source of a module was handed to the frontend to be parsed. -/
  | parsed (path : ModulePath) (file : FileName)
  /-- Some imports of a module were refused. -/
  | refused (path : ModulePath) (errors : List ImportError)
  /-- A module was handed to the frontend to be checked, with what had been made of its
  imports. -/
  | checked (path : ModulePath) (imports : List ModulePath) (artifacts : List α)
    (result : Except (List Diagnostic) α)

/-- What a compiler did, from the first event to the last. -/
abbrev Journal (α : Type) := List (Event α)

/-- Compiling in a session with a journal. -/
abbrev Compiling (α ρ : Type) := Work α (Journal α) ρ

namespace Compiling

variable {α : Type}

/-- Adds an event to the journal. -/
def note (event : Event α) : Compiling α Unit :=
  Work.changeRecord (· ++ [event])

end Compiling

/-- A session in which nothing has been done. -/
def Session.fresh {α : Type} : Session α (Journal α) := ⟨.empty, []⟩

/-- A compiler: where it looks for files, and its frontend. -/
structure Compiler (α : Type) where
  options : Options
  frontend : Frontend α

namespace Compiler

variable {α : Type} (compiler : Compiler α)

/-- The module path of a file below the source root. -/
def modulePathOf (fs : Filesystem) (file : FileName) : Except Diagnostic ModulePath :=
  match deriveModulePath fs file compiler.options.sourceRoot compiler.options.package with
  | .ok path => .ok path
  | .error error =>
    .error (.error Code.invalidModuleName error.message (.ofFile file))

/-! ### Finding files -/

/-- Whether a module belongs to the package that is compiled. -/
def isOwn (path : ModulePath) : Bool := path.isInPackage compiler.options.package

/-- Looks for the file of a module: an implementation in the own package, and an interface
in any other one. -/
def search (fs : Filesystem) (path : ModulePath) : Except (List FileName) FileName :=
  if compiler.isOwn path then compiler.options.sourcePath.findImplementation fs path
  else compiler.options.interfacePath.findInterface fs path

/-- The diagnostic for a module whose file is not among those tried. -/
def notFound (path : ModulePath) (tried : List FileName) : Diagnostic :=
  let diagnostic :=
    tried.foldl (fun diagnostic file => diagnostic.withNote ("tried " ++ file.text))
      (Diagnostic.error Code.moduleNotFound ("cannot find module " ++ path.text) .unknown)
  if tried = [] then
    let kind := if compiler.isOwn path then "source" else "interface"
    diagnostic.withHelp ("the " ++ kind ++ " path is empty")
  else diagnostic

/-- The file of a module. -/
def locate (fs : Filesystem) (path : ModulePath) : Except CompileFailure FileName :=
  match compiler.search fs path with
  | .ok file => .ok file
  | .error tried => .error ⟨path, [compiler.notFound path tried]⟩

/-! ### Compiling -/

/-- The failure of a module whose file cannot be read. -/
def unreadable (path : ModulePath) (file : FileName) (error : AccessError) : CompileFailure :=
  ⟨path, [.error Code.unreadableSource
    ("cannot read " ++ file.text ++ ": " ++ error.message) (.ofFile file)]⟩

/-- The failure of a module with imports that are refused. -/
def refused (path : ModulePath) (file : FileName) (errors : List ImportError) :
    CompileFailure :=
  ⟨path, errors.flatMap fun error => error.toDiagnostics (.ofFile file)⟩

/-- The failure of a module that reveals what it must not. -/
def leaking (path : ModulePath) (file : FileName) (errors : List ExportError) :
    CompileFailure :=
  ⟨path, errors.map fun error => error.toDiagnostic (.ofFile file)⟩

/-- A compiled module. -/
def moduleInfo (path : ModulePath) (file : FileName) (unit : CompilationUnit)
    (imports : Imports α) (exports : ExportContext) (checked : α) : ModuleInfo α where
  path := path
  file := file
  imports := imports.paths
  spec := unit.spec
  symbols := .ofUnit unit
  exports := exports
  singletons := exports.singletons.names
  abstractTypes := exports.abstractTypes.names
  checked := checked

/-- What becomes of a unit whose imports have been compiled. -/
def completeUnit (path : ModulePath) (file : FileName) (unit : CompilationUnit)
    (imports : Imports α) : Compiling α (CompileResult α) := do
  match inferExports unit path (.ofUnit unit) (.collect unit imports) imports.internal with
  | .error errors => return .error (leaking path file errors)
  | .ok exports =>
    let result := compiler.frontend.check unit imports exports
    Compiling.note (.checked path imports.paths imports.artifacts result)
    match result with
    | .error diagnostics => return .error ⟨path, diagnostics⟩
    | .ok checked => return .ok (moduleInfo path file unit imports exports checked)

/-- What becomes of a unit, whose imports `require` compiles. -/
def compileUnit (require : ModulePath → ImportChain → Compiling α (CompileResult α))
    (path : ModulePath) (chain : ImportChain) (file : FileName) (unit : CompilationUnit) :
    Compiling α (CompileResult α) := do
  match ← checkImports unit path chain require with
  | .error errors =>
    Compiling.note (.refused path errors)
    return .error (refused path file errors)
  | .ok imports => compiler.completeUnit path file unit imports

/-- What becomes of the module in a file, whose imports `require` compiles. -/
def compileWith (fs : Filesystem)
    (require : ModulePath → ImportChain → Compiling α (CompileResult α))
    (path : ModulePath) (chain : ImportChain) (file : FileName) :
    Compiling α (CompileResult α) := do
  match fs.readText file with
  | .error error => return .error (unreadable path file error)
  | .ok text =>
    Compiling.note (.parsed path file)
    match compiler.frontend.parse file text path with
    | .error diagnostics => return .error ⟨path, diagnostics⟩
    | .ok unit => compiler.compileUnit require path chain file unit

/-- Compiles a module at the end of a chain, with at most `depth` modules nested in one
another. -/
def requireWithin (fs : Filesystem) :
    Nat → ModulePath → ImportChain → Compiling α (CompileResult α)
  | 0, _, _ => Work.stuck
  | depth + 1, path, chain => do
    Compiling.note (.required path chain (← get).cache.running)
    Cache.requireWith path
      (match compiler.locate fs path with
        | .error failure => return .error failure
        | .ok file => compiler.compileWith fs (requireWithin fs depth) path chain file)

/-- Compiles a file as the outermost module, with at most `depth` modules nested below it. -/
def compileFileWithin (fs : Filesystem) (depth : Nat) (file : FileName) :
    Compiling α (Except (List Diagnostic) (ModuleInfo α)) := do
  match compiler.modulePathOf fs file with
  | .error diagnostic => return .error [diagnostic]
  | .ok path =>
    let result ← Cache.requireWith path
      (compiler.compileWith fs (compiler.requireWithin fs depth) path (.root path) file)
    return result.mapError (·.diagnostics)

/-! ### How deep modules are nested -/

/-- The number of ways to find a file in one of the directories that are searched. -/
def findings (fs : Filesystem) : Nat :=
  (compiler.options.sourcePath.dirs.length + compiler.options.interfacePath.dirs.length) *
    fs.files.length

/-- A bound on how deep the modules are nested that are compiled for a module. Imports keep
the package of the module or leave it, and keep some of its directories; for each choice of
these a module is known by the way its file is found. -/
def nestingBound (fs : Filesystem) (path : ModulePath) : Nat :=
  2 * (path.dirs.length + 2) * compiler.findings fs + 2

/-- Compiles a module on behalf of the modules in a chain, which ends with it. -/
def require (fs : Filesystem) (path : ModulePath) (chain : ImportChain) :
    Compiling α (CompileResult α) :=
  compiler.requireWithin fs (compiler.nestingBound fs path) path chain

/-- Compiles a file as the outermost module. -/
def compileFile (fs : Filesystem) (file : FileName) :
    Compiling α (Except (List Diagnostic) (ModuleInfo α)) :=
  let depth :=
    match compiler.modulePathOf fs file with
    | .ok path => compiler.nestingBound fs path
    | .error _ => 0
  compiler.compileFileWithin fs depth file

end Compiler

end BriskModules
