import BriskModules.Import.Facts
import Mathlib.Tactic

/-!
The facts that a unit gets from its imports, name by name.

An import adds names of the module that is kept under its local name, and no import takes a
name away, so a name is a fact of a unit iff the unit declares it as such or one of its imports
adds it.

* `Facts.Adds`: one of several imports adds a name;
* `Facts.mem_singletons_collect`, `Facts.mem_abstractTypes_collect`: the facts of a unit and of
  its imports.
-/

namespace BriskModules.Facts

variable {α : Type} (imports : Imports α)

/-- One of several imports adds a name, which stands for one of the names that are picked from
the module under the local name of the import. -/
def Adds (pick : ModuleInfo α → NameSet) (decls : List Import) (name : String) : Prop :=
  ∃ decl ∈ decls, ∃ info, imports.get? decl.localName.id = some info ∧
    name ∈ importedNames decl (pick info)

lemma adds_cons_iff {pick : ModuleInfo α → NameSet} {decl : Import} {more : List Import}
    {name : String} :
    Adds imports pick (decl :: more) name ↔
      (∃ info, imports.get? decl.localName.id = some info ∧
        name ∈ importedNames decl (pick info)) ∨ Adds imports pick more name := by
  simp only [Adds, List.exists_mem_cons_iff]

/-- One import adds names to both kinds of facts and takes none away. -/
lemma mem_addImport (facts : Facts) (decl : Import) (name : String) :
    (name ∈ (addImport imports facts decl).singletons ↔
      name ∈ facts.singletons ∨ ∃ info, imports.get? decl.localName.id = some info ∧
        name ∈ importedNames decl info.singletons) ∧
    (name ∈ (addImport imports facts decl).abstractTypes ↔
      name ∈ facts.abstractTypes ∨ ∃ info, imports.get? decl.localName.id = some info ∧
        name ∈ importedNames decl info.abstractTypes) := by
  rw [addImport]
  cases imports.get? decl.localName.id with
  | none => simp
  | some info => simp [NameSet.mem_insertAll, or_comm]

/-- All imports do. -/
lemma mem_foldl_addImport (decls : List Import) (facts : Facts) (name : String) :
    (name ∈ (decls.foldl (addImport imports) facts).singletons ↔
      name ∈ facts.singletons ∨ Adds imports ModuleInfo.singletons decls name) ∧
    (name ∈ (decls.foldl (addImport imports) facts).abstractTypes ↔
      name ∈ facts.abstractTypes ∨ Adds imports ModuleInfo.abstractTypes decls name) := by
  induction decls generalizing facts with
  | nil => simp [Adds]
  | cons decl more ih =>
      obtain ⟨hsingletons, habstract⟩ := mem_addImport imports facts decl name
      obtain ⟨hsingletons', habstract'⟩ := ih (addImport imports facts decl)
      rw [List.foldl_cons, hsingletons', habstract', hsingletons, habstract, adds_cons_iff,
        adds_cons_iff, or_assoc, or_assoc]
      exact ⟨Iff.rfl, Iff.rfl⟩

variable (unit : CompilationUnit) (name : String)

/-- The singletons that a unit knows are its own and those that its imports add. -/
lemma mem_singletons_collect :
    name ∈ (collect unit imports).singletons ↔
      name ∈ (ofUnit unit).singletons ∨
        Adds imports ModuleInfo.singletons unit.imports name :=
  (mem_foldl_addImport imports unit.imports (ofUnit unit) name).1

/-- The abstract types that a unit knows are its own and those that its imports add. -/
lemma mem_abstractTypes_collect :
    name ∈ (collect unit imports).abstractTypes ↔
      name ∈ (ofUnit unit).abstractTypes ∨
        Adds imports ModuleInfo.abstractTypes unit.imports name :=
  (mem_foldl_addImport imports unit.imports (ofUnit unit) name).2

end BriskModules.Facts
