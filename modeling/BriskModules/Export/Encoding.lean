import BriskModules.Export.Context
import BriskModules.Json.Basic

/-!
What a module exports as a JSON value, for the tools that read it.
-/

namespace BriskModules

/-- A set of names as an array. -/
def NameSet.toJson (names : NameSet) : Json := .ofStrings names.toList

/-- A table as an object. -/
def NameMap.toJson {β : Type} (encode : String → β → Json) (map : NameMap β) : Json :=
  .object (map.toList.map fun (name, value) => (name, encode name value))

/-- A signature as an object. -/
def SingletonSignature.toJson (signature : SingletonSignature) : Json :=
  .object [("tag", .string signature.tag.text),
    ("usages", .array (signature.usages.map .ofStrings))]

/-- What a module exports as an object. -/
def ExportContext.toJson (context : ExportContext) : Json :=
  .object [
    ("export_scope", context.exportScope.toJson),
    ("required_imports",
      context.requiredImports.toJson fun _ owner => .ofOption .string owner),
    ("singleton_signatures", context.singletons.toJson fun _ signature => signature.toJson),
    ("opaque_types",
      context.abstractTypes.toJson fun name kind =>
        .object [("name", .string name), ("kind", .string kind.text)]),
    ("internal_imports", context.internalImports.toJson fun _ kind => .string kind.text)]

end BriskModules
