import BriskModules.Module.Search
import BriskModules.Package.Manifest

/-!
Where the compiler looks for files, and which package it compiles.

Without a manifest everything is in the current directory. A manifest names directories
relative to the one it lies in; without a source path the source root is searched.

* `Options.ofManifest` turns a manifest into options;
* `Options.load` reads the manifest from a file.
-/

namespace BriskModules

/-- The usual name of the manifest of a package. -/
def manifestFile : FileName := ⟨"brisk.json"⟩

/-- Why there are no options. -/
inductive OptionsError where
  | unreadable (file : FileName) (error : AccessError)
  | malformed (file : FileName) (fault : Json.Fault)
  | invalidPackage (name : String)
deriving DecidableEq, Repr

namespace OptionsError

/-- An error in words. -/
def message : OptionsError → String
  | .unreadable file error => "cannot read manifest '" ++ file.text ++ "': " ++ error.message
  | .malformed file fault => "invalid manifest '" ++ file.text ++ "': " ++ fault.message
  | .invalidPackage name => "invalid package name '" ++ name ++ "'"

/-- What an error was caused by, in words. -/
def causes : OptionsError → List String
  | .unreadable _ error => [error.message]
  | .malformed _ fault => [fault.message]
  | .invalidPackage _ => []

end OptionsError

/-- Where files are looked for, and which package is compiled. -/
structure Options where
  /-- Where module paths of files start. -/
  sourceRoot : FileName := ⟨"."⟩
  /-- Where implementations of the own package are searched. -/
  sourcePath : SearchPath := .parse "."
  /-- Where interfaces of other packages are searched. -/
  interfacePath : SearchPath := ⟨[]⟩
  /-- The package that is compiled, or none for a program by itself. -/
  package : Option String := none
deriving DecidableEq, Repr, Inhabited

namespace Options

/-- The same options for another package. -/
def withPackage (options : Options) (name : String) : Except OptionsError Options :=
  if isIdentifier name then .ok { options with package := some name }
  else .error (.invalidPackage name)

/-- The options of a manifest that lies in the directory `base`. -/
def ofManifest (manifest : Manifest) (base : FileName) : Except OptionsError Options :=
  let root := manifest.sourceRoot.getD "."
  let options : Options :=
    { sourceRoot := base.join ⟨root⟩
      sourcePath := (SearchPath.parse (manifest.sourcePath.getD root)).below base
      interfacePath :=
        match manifest.interfacePath with
        | some dirs => (SearchPath.parse dirs).below base
        | none => ⟨[]⟩ }
  match manifest.name with
  | some name => options.withPackage name
  | none => .ok options

/-- The options of the manifest in a file. -/
def load (fs : Filesystem) (file : FileName) : Except OptionsError Options :=
  match fs.readText file with
  | .error error => .error (.unreadable file error)
  | .ok text =>
    match Manifest.ofText text with
    | .error fault => .error (.malformed file fault)
    | .ok manifest => ofManifest manifest (file.parent?.getD ⟨"."⟩)

end Options

end BriskModules
