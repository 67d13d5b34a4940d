import BriskModules.File.System
import BriskModules.Module.Path
import BriskModules.Text.Blank

/-!
Search paths: the directories in which the files of modules are looked for.

A search path is written as directories with semicolons between them. The directories are
tried from left to right, and the first one that has the file wins, unless the file must not be
opened: then the search goes on.

* `SearchPath.parse` and `SearchPath.text` read and write a search path;
* `SearchPath.find` looks for a file of a module and otherwise tells what it tried.
-/

namespace BriskModules

/-- Directories in the order in which they are searched. -/
structure SearchPath where
  dirs : List FileName
deriving DecidableEq, Repr, Inhabited

namespace SearchPath

/-- Separates the directories of a search path in text. -/
def separator : Char := ';'

/-- Reads a search path. Blanks around a directory are dropped, and so are directories of
which nothing is left. -/
def parse (text : String) : SearchPath where
  dirs := (((Text.pieces separator text.toList).map Text.trim).filter (· ≠ [])).map
    fun dir => ⟨String.ofList dir⟩

/-- A search path as text. -/
def text (path : SearchPath) : String :=
  Text.joined (String.singleton separator) (path.dirs.map FileName.text)

/-- A search path with one more directory at its end. -/
def push (path : SearchPath) (dir : FileName) : SearchPath :=
  ⟨path.dirs ++ [dir]⟩

/-- The search path below a base directory. -/
def below (base : FileName) (path : SearchPath) : SearchPath :=
  ⟨path.dirs.map base.join⟩

/-- The first file in the directories that has the relative name and may be opened, and
otherwise all names that were tried. -/
def findIn (fs : Filesystem) (relative : FileName) :
    List FileName → Except (List FileName) FileName
  | [] => .error []
  | dir :: more =>
    let candidate := dir.join relative
    if fs.isReadable candidate then .ok candidate
    else
      match findIn fs relative more with
      | .ok file => .ok file
      | .error tried => .error (candidate :: tried)

/-- The file of a module with an extension. -/
def find (fs : Filesystem) (path : SearchPath) (module : ModulePath) (extension : String) :
    Except (List FileName) FileName :=
  findIn fs (module.relativeFile extension) path.dirs

/-- The implementation of a module of the own package. -/
def findImplementation (fs : Filesystem) (path : SearchPath) (module : ModulePath) :
    Except (List FileName) FileName :=
  path.find fs module.withoutPackage implementationExtension

/-- The interface of a module, below a directory named for its package. -/
def findInterface (fs : Filesystem) (path : SearchPath) (module : ModulePath) :
    Except (List FileName) FileName :=
  path.find fs module interfaceExtension

end SearchPath

end BriskModules
