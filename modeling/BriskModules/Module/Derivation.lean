import BriskModules.File.System
import BriskModules.Module.Path

/-!
The module path of a source file.

A file below the source root is named by the directories from the root to it and by its
own name without the extension. Whether a file is below the root is first tried on the
names as they are written; when that fails, because one name is absolute and the other is
not or because of two dots, both are followed to their locations.

* `relativeToRoot` finds the way from the root to a file;
* `deriveModulePath` turns it into a module path, or tells every name that is unfit.
-/

namespace BriskModules

/-- Why a file has no module path. -/
inductive DerivationError where
  | outsideRoot (file root : FileName)
  | notSource (file : FileName)
  /-- The package, directories or file name that are no identifiers. -/
  | invalidNames (names : List String)
deriving DecidableEq, Repr

/-- The error in words. -/
def DerivationError.message : DerivationError → String
  | .outsideRoot file root =>
    "file '" ++ file.text ++ "' is not below the source root '" ++ root.text ++ "'"
  | .notSource file => "'" ++ file.text ++ "' is not a .brk or .brh source file"
  | .invalidNames names =>
    "invalid module name component" ++ (if names.length = 1 then "" else "s") ++ ": " ++
      Text.joined ", " names

/-- The components of a name without a dot at its start. -/
def FileName.steps (file : FileName) : List Component :=
  file.components.filter (· ≠ .here)

/-- The way from the root to a file by their names alone, if it goes only down. -/
def writtenWay? (file root : FileName) : Option (List Component) :=
  if root.steps.isPrefixOf file.steps then
    let way := file.steps.drop root.steps.length
    if .up ∈ way then none else some way
  else none

/-- The way from the root to a file by their locations. The names may have any length,
since no file is opened. -/
def locatedWay? (fs : Filesystem) (file root : FileName) : Option (List Component) :=
  match fs.follow file, fs.follow root with
  | .ok file, .ok root =>
    if root.isPrefixOf file then some ((file.drop root.length).map .named) else none
  | _, _ => none

/-- The way from the root to a file. -/
def relativeToRoot (fs : Filesystem) (file root : FileName) : Option (List Component) :=
  match writtenWay? file root with
  | some way => some way
  | none => locatedWay? fs file root

/-- The stem of a file name that ends like a source file. -/
def sourceStem? (name : String) : Option String :=
  match splitExtension name with
  | (stem, some extension) =>
    if extension = implementationExtension ∨ extension = interfaceExtension then some stem
    else none
  | _ => none

/-- The stem of the file at the end of a way, if it is a source file. -/
def stemOfWay? (way : List Component) : Option String :=
  match way.getLast? with
  | some (.named name) => sourceStem? name
  | _ => none

/-- The module path of a file below a source root, in a package. -/
def deriveModulePath (fs : Filesystem) (file root : FileName) (package : Option String) :
    Except DerivationError ModulePath :=
  match relativeToRoot fs file root with
  | none => .error (.outsideRoot file root)
  | some way =>
    match stemOfWay? way with
    | none => .error (.notSource file)
    | some stem =>
      let path : ModulePath := ⟨package, way.dropLast.map Component.text, stem⟩
      match path.segments.filter (fun segment => ¬ isIdentifier segment) with
      | [] => .ok path
      | invalid => .error (.invalidNames invalid)

end BriskModules
