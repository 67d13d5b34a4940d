import BriskModules.Diagnostic.Basic
import BriskModules.Diagnostic.Code
import BriskModules.Symbol.NameSet
import BriskModules.Syntax.Tree

/-!
What a module exports, as far as it has been found out.

An `ExportContext` collects the names in the export scope, the imports that an importer of
the module needs too, the signatures of singletons, the types of which only the name is
known outside, the imports of internals, and the errors. Each collection has its own rule
for what comes again: the first tag of a singleton and the first owner of a name that is
required stay, the last kind of a type and of an import counts, and usages and errors add
up.

* `finish` gives the errors, or the context restricted to what the export scope demands.
-/

namespace BriskModules

/-! ### Errors -/

/-- Why something must not be exposed. -/
inductive ExportError where
  /-- A hidden name is referred to where everything is revealed. -/
  | nameLessAccessible (name exposing : String) (loc : Loc)
  /-- The same through an extension member. -/
  | implicitNameLessAccessible (name exposing : String) (loc : Loc)
  /-- A name from an internal module is revealed. -/
  | internalModuleRequired (name owner exposing : String) (loc : Loc)
  /-- A name from an import of internals is revealed. -/
  | importInternalRequired (name owner exposing : String) (loc : Loc)
deriving DecidableEq, Repr

namespace ExportError

/-- The name that is revealed. -/
def name : ExportError → String
  | .nameLessAccessible name .. | .implicitNameLessAccessible name ..
  | .internalModuleRequired name .. | .importInternalRequired name .. => name

/-- The local name of the import that the name comes from. -/
def owner? : ExportError → Option String
  | .nameLessAccessible .. | .implicitNameLessAccessible .. => none
  | .internalModuleRequired _ owner .. | .importInternalRequired _ owner .. => some owner

/-- The member that reveals the name. -/
def exposing : ExportError → String
  | .nameLessAccessible _ exposing _ | .implicitNameLessAccessible _ exposing _
  | .internalModuleRequired _ _ exposing _ | .importInternalRequired _ _ exposing _ => exposing

/-- Where the name is revealed. -/
def loc : ExportError → Loc
  | .nameLessAccessible _ _ loc | .implicitNameLessAccessible _ _ loc
  | .internalModuleRequired _ _ _ loc | .importInternalRequired _ _ _ loc => loc

/-- The code of an error. -/
def code : ExportError → String
  | .nameLessAccessible .. => Code.nameLessAccessible
  | .implicitNameLessAccessible .. => Code.implicitNameLessAccessible
  | .internalModuleRequired .. => Code.internalModuleRequired
  | .importInternalRequired .. => Code.importInternalRequired

/-- An error in words. -/
def message : ExportError → String
  | .nameLessAccessible name exposing _ =>
    "'" ++ name ++ "' is less accessible than '" ++ exposing ++ "', which exposes it"
  | .implicitNameLessAccessible name exposing _ =>
    "'" ++ name ++ "' is implicitly used by '" ++ exposing ++ "' but is less accessible"
  | .internalModuleRequired name owner exposing _ =>
    "'" ++ exposing ++ "' exposes '" ++ name ++ "' from '" ++ owner ++
      "', which is an internal module"
  | .importInternalRequired name owner exposing _ =>
    "'" ++ exposing ++ "' exposes '" ++ name ++ "' from the internal import '" ++ owner ++ "'"

/-- An error as a diagnostic about a file. -/
def toDiagnostic (error : ExportError) (file : Span) : Diagnostic :=
  let span := file.place error.loc.line.toNat error.loc.column.toNat 0
  let diagnostic := Diagnostic.error error.code error.message span
  match error with
  | .nameLessAccessible name exposing _ | .implicitNameLessAccessible name exposing _ =>
    (diagnostic.withNote ("'" ++ name ++ "' is declared but not exposed")).withHelp
      ("add '" ++ name ++ "' to the module's exposes list or stop revealing it through '" ++
        exposing ++ "'")
  | .internalModuleRequired _ owner _ _ =>
    diagnostic.withHelp
      ("declare this module internal or keep '" ++ owner ++ "' out of its public interface")
  | .importInternalRequired _ owner _ _ =>
    diagnostic.withHelp
      ("declare this module internal or keep the whitebox import '" ++ owner ++
        "' out of its public interface")

end ExportError

/-! ### What is collected -/

/-- How much of a singleton is exported. -/
inductive SingletonTag where
  /-- Its name, and only if that is demanded. -/
  | byName
  /-- The singleton with its usages, since it is exposed. -/
  | translucent
deriving DecidableEq, Repr

/-- A tag in one word. -/
def SingletonTag.text : SingletonTag → String
  | .byName => "Opaque"
  | .translucent => "Translucent"

/-- What is exported of a singleton: the distinct lists of captures it was called with, in
the order in which they first came. -/
structure SingletonSignature where
  tag : SingletonTag
  usages : List (List String) := []
deriving DecidableEq, Repr

/-- A signature with one more usage, unless it is known. -/
def SingletonSignature.record (signature : SingletonSignature) (captures : List String) :
    SingletonSignature :=
  if captures ∈ signature.usages then signature
  else { signature with usages := signature.usages ++ [captures] }

/-- How a type was declared of which only the name is known outside. -/
inductive AbstractKind where
  | struct
  | newType
  | bare
deriving DecidableEq, Repr

/-- A kind in one word. -/
def AbstractKind.text : AbstractKind → String
  | .struct => "Struct"
  | .newType => "NewType"
  | .bare => "Opaque"

/-- Why an import gives access to internals. -/
inductive InternalKind where
  /-- It is a whitebox import. -/
  | whitebox
  /-- The imported module is itself internal. -/
  | transitive
deriving DecidableEq, Repr

/-- A kind in one word. -/
def InternalKind.text : InternalKind → String
  | .whitebox => "Whitebox"
  | .transitive => "Transitive"

/-- What a module exports. -/
structure ExportContext where
  exportScope : NameSet := ∅
  /-- Imported names that importers need too, with the local name of the import that
  exposes them, or none if the name is itself the local name of an import. -/
  requiredImports : NameMap (Option String) := ∅
  singletons : NameMap SingletonSignature := ∅
  /-- Types of which only the name is known outside. -/
  abstractTypes : NameMap AbstractKind := ∅
  internalImports : NameMap InternalKind := ∅
  errors : List ExportError := []
deriving DecidableEq

namespace ExportContext

/-- Nothing collected yet. -/
def empty : ExportContext := {}

/-- Adds a name to the export scope. -/
def exportName (context : ExportContext) (name : String) : ExportContext :=
  { context with exportScope := context.exportScope.insert name }

/-- Notes that importers need an imported name; a known owner stays. -/
def requireImport (context : ExportContext) (name : String) (owner : Option String) :
    ExportContext :=
  { context with requiredImports := context.requiredImports.insertIfNew name owner }

/-- Notes a singleton; a known one keeps its tag and its usages. -/
def declareSingleton (context : ExportContext) (name : String) (tag : SingletonTag) :
    ExportContext :=
  { context with singletons := context.singletons.insertIfNew name ⟨tag, []⟩ }

/-- Notes the captures of a call of a singleton, if the singleton is known. -/
def recordUsage (context : ExportContext) (name : String) (captures : List String) :
    ExportContext :=
  { context with singletons := context.singletons.modify name (·.record captures) }

/-- Notes a type of which only the name is to be known outside. -/
def declareAbstractType (context : ExportContext) (name : String) (kind : AbstractKind) :
    ExportContext :=
  { context with abstractTypes := context.abstractTypes.insert name kind }

/-- Notes that an import gives access to internals. -/
def classifyImport (context : ExportContext) (localName : String) (kind : InternalKind) :
    ExportContext :=
  { context with internalImports := context.internalImports.insert localName kind }

/-- Adds an error. -/
def report (context : ExportContext) (error : ExportError) : ExportContext :=
  { context with errors := context.errors ++ [error] }

/-- Whether a name is that of a singleton of which only the name is exported. -/
def isByNameSingleton (context : ExportContext) (name : String) : Bool :=
  context.singletons[name]?.any (·.tag = .byName)

/-- Whether there is an error. -/
def hasErrors (context : ExportContext) : Bool := context.errors ≠ []

/-- The errors if there are any, and otherwise what the export scope demands. -/
def finish (context : ExportContext) : Except (List ExportError) ExportContext :=
  if context.errors = [] then
    .ok
      { context with
        abstractTypes := context.abstractTypes.filter fun name _ =>
          context.exportScope.contains name
        singletons := context.singletons.filter fun name _ =>
          context.exportScope.contains name }
  else .error context.errors

end ExportContext

end BriskModules
