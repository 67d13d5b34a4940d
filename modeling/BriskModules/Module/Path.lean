import BriskModules.File.Name
import BriskModules.Module.Identifier
import Std.Data.ExtTreeSet

/-!
Module paths: what identifies a module.

A module belongs to a package or to none, and is found in it through directories and a
file. Modules are ordered by package, then by directories, then by file; modules without
a package come first.

* `WellFormed`: all segments are identifiers;
* `relativeFile`, `implementationFile`, `interfaceFile`, `sourceFileC`, `headerFileC`: the
  names of the files that belong to a module.
-/

namespace BriskModules

/-- The identity of a module. -/
structure ModulePath where
  package : Option String
  dirs : List String
  file : String
deriving DecidableEq, Repr, Inhabited

/-- The extension of files with implementations. -/
def implementationExtension : String := "brk"

/-- The extension of files with interfaces. -/
def interfaceExtension : String := "brh"

namespace ModulePath

/-- The order of module paths: by package, then by directories, then by file. -/
def order : ModulePath → ModulePath → Ordering :=
  compareLex (compareOn package) (compareLex (compareOn dirs) (compareOn file))

instance : Ord ModulePath := ⟨order⟩

instance : Std.TransOrd ModulePath :=
  inferInstanceAs (Std.TransCmp (compareLex _ (compareLex _ _)))

instance : Std.LawfulEqOrd ModulePath where
  compare_self {a} := @Std.ReflCmp.compare_self _ (compareLex _ (compareLex _ _)) _ a
  eq_of_compare {a b} h := by
    change compareLex _ _ a b = .eq at h
    simp only [compareLex_eq_eq, compareOn, Std.LawfulEqOrd.compare_eq_iff_eq] at h
    cases a
    cases b
    simp_all

/-- The same module as its own package sees it. -/
def withoutPackage (path : ModulePath) : ModulePath :=
  ⟨none, path.dirs, path.file⟩

/-- Whether the module belongs to a package, or to none. -/
def isInPackage (path : ModulePath) (package : Option String) : Bool :=
  path.package = package

/-- The package, the directories and the file. -/
def segments (path : ModulePath) : List String :=
  path.package.toList ++ path.dirs ++ [path.file]

/-- Whether all segments are identifiers. -/
def WellFormed (path : ModulePath) : Prop :=
  ∀ segment ∈ path.segments, isIdentifier segment

instance (path : ModulePath) : Decidable path.WellFormed :=
  inferInstanceAs (Decidable (∀ segment ∈ path.segments, _))

/-- A module path as text: `dir/file`, or `@package/dir/file`. -/
def text (path : ModulePath) : String :=
  let package :=
    match path.package with
    | some package => "@" ++ package ++ "/"
    | none => ""
  package ++ Text.joined "/" (path.dirs ++ [path.file])

/-- The name of a file of the module: the segments below one another, with an extension. -/
def relativeFile (path : ModulePath) (extension : String) : FileName :=
  (FileName.ofSegments path.segments).withExtension extension

/-- The implementation, which lies in the package itself and not below a directory named
for it. -/
def implementationFile (path : ModulePath) : FileName :=
  path.withoutPackage.relativeFile implementationExtension

/-- The interface. -/
def interfaceFile (path : ModulePath) : FileName :=
  path.relativeFile interfaceExtension

/-- The generated C source. -/
def sourceFileC (path : ModulePath) : FileName :=
  path.relativeFile "c"

/-- The generated C header. -/
def headerFileC (path : ModulePath) : FileName :=
  path.relativeFile "h"

/-- The start of all names in the generated C source. -/
def prefixC (path : ModulePath) : String :=
  Text.joined "_" path.segments

end ModulePath

/-- A set of modules. -/
abbrev ModuleSet := Std.ExtTreeSet ModulePath

/-- The set of the given modules. -/
def ModuleSet.ofPaths (paths : List ModulePath) : ModuleSet :=
  paths.foldl (fun set path => set.insert path) ∅

end BriskModules
