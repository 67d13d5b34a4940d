import BriskModules.Symbol.NameSet
import BriskModules.Syntax.Tree

/-!
Facts about names that decide what may be exported by name only: which names are those of
singletons and which are those of types whose structure is withheld.

Names are as the unit sees them: `f` for what it declares itself or an import exposes, and
`m.f` for what it reaches through the local name of an import.

* `Facts.ofUnit` are the facts that a unit declares itself.
-/

namespace BriskModules

/-- Names of singletons and of abstract types. -/
structure Facts where
  singletons : NameSet
  abstractTypes : NameSet
deriving DecidableEq

namespace Facts

/-- The names of the singletons that a unit declares. -/
def localSingletons (unit : CompilationUnit) : List String :=
  (unit.members.filter (·.isSingleton)).map (·.name.id)

/-- The names of the types that a unit declares and does not expose. -/
def localAbstractTypes (unit : CompilationUnit) : List String :=
  ((unit.members.filter (·.isType)).map (·.name.id)).filter (· ∉ unit.exposes)

/-- The facts that a unit declares itself. -/
def ofUnit (unit : CompilationUnit) : Facts :=
  ⟨.ofNames (localSingletons unit), .ofNames (localAbstractTypes unit)⟩

end Facts

end BriskModules
