import BriskModules.Diagnostic.Code
import BriskModules.Import.Registry
import BriskModules.Syntax.Schema

/-!
Frontends: parsing and type checking, supplied by the rest of the compiler.

* `Frontend.syntaxTrees` reads compilation units that a parser has written as JSON, and
  accepts every unit.
-/

namespace BriskModules

/-- Parsing and type checking; `α` is what a checked module is turned into. -/
structure Frontend (α : Type) where
  /-- Parses the text of a file as the source of a module. -/
  parse : FileName → String → ModulePath → Except (List Diagnostic) CompilationUnit
  /-- Checks a unit whose imports have been compiled and whose exports are known. -/
  check : CompilationUnit → Imports α → ExportContext → Except (List Diagnostic) α

namespace Frontend

/-- The diagnostic for a text that is no compilation unit. -/
def syntaxTreeDiagnostic (file : FileName) (module : ModulePath) (fault : Json.Fault) :
    Diagnostic :=
  .error Code.frontendError
    ("cannot read syntax tree of module " ++ module.text ++ ": " ++ fault.message)
    ((Span.ofFile file).place fault.position.line fault.position.column 1)

/-- Parses a compilation unit that is written as JSON. -/
def parseSyntaxTree (file : FileName) (text : String) (module : ModulePath) :
    Except (List Diagnostic) CompilationUnit :=
  match CompilationUnit.ofText text with
  | .ok unit => .ok unit
  | .error fault => .error [syntaxTreeDiagnostic file module fault]

/-- The frontend of compilation units that are written as JSON. -/
def syntaxTrees : Frontend Unit where
  parse := parseSyntaxTree
  check _ _ _ := .ok ()

end Frontend

end BriskModules
