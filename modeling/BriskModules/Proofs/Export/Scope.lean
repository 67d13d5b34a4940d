import BriskModules.Proofs.Export.Effect
import BriskModules.Proofs.Export.Errors

/-!
The export scope of a unit, and the types that it exports by name only.

The scope starts with the exposed names, and it grows during the walk: a hidden name is
exported by name if it is revealed by name somewhere and is that of an abstract type or of
a singleton. Whether it is that of a singleton is read off the context that is being built,
but the tags there are fixed before the walk, so the demands of all occurrences can be told
from the context at the start, wherever they come.

* `CompilationUnit.IsSingleton`, `CompilationUnit.typeKind?`: what a name is declared as;
* `CompilationUnit.Demanded`: the hidden names that are exported by name;
* `mem_exportScope_see`, `mem_exportScope_foldl_see`: what one sighting and all sightings add;
* `mem_exportScope_exportSeed`, `singletons_exportSeed`, `abstractTypes_exportSeed`: the start;
* `inferExports_scope`: the export scope of a unit.
-/

namespace BriskModules

/-! ### What names are declared as -/

namespace CompilationUnit

variable (unit : CompilationUnit) (facts : Facts) (name : String)

/-- A name is declared by a singleton. -/
def IsSingleton : Prop :=
  ∃ member ∈ unit.members, member.name.id = name ∧ member.isSingleton = true

instance : Decidable (unit.IsSingleton name) :=
  inferInstanceAs (Decidable (∃ member ∈ unit.members, _ ∧ _))

/-- The kind of the last type that is declared under a name. -/
def typeKind? : Option AbstractKind :=
  ((unit.members.filter (·.name.id = name)).filterMap Member.abstractKind?).getLast?

/-- A hidden name is exported by name: it is revealed by name somewhere in the unit, and it is
that of an abstract type or of a singleton. -/
structure Demanded : Prop where
  hidden : unit.Hides name
  revealed : ∃ occurrence ∈ unit.occurrences,
    occurrence.first = name ∧ occurrence.visibility = .semitransparent
  nameable : name ∈ facts.abstractTypes ∨ unit.IsSingleton name

/-- A name has a kind of type iff a type is declared under it. -/
lemma isSome_typeKind?_iff :
    (unit.typeKind? name).isSome = true ↔
      ∃ member ∈ unit.members, member.name.id = name ∧ member.isType = true := by
  have hkind : ∀ member : Member, member.abstractKind? = none ↔ member.isType = false := by
    intro member
    cases member with
    | type decl =>
        obtain ⟨_, kind⟩ := decl
        cases kind <;> simp [Member.abstractKind?, Member.isType]
    | var _ => simp [Member.abstractKind?, Member.isType]
    | subprogram _ => simp [Member.abstractKind?, Member.isType]
    | prototype _ => simp [Member.abstractKind?, Member.isType]
  rw [typeKind?, List.getLast?_isSome, Ne, List.filterMap_eq_nil_iff]
  simp [hkind]

end CompilationUnit

/-! ### What the walk adds -/

namespace Surroundings

variable (known : Surroundings)

/-- A sighting exports the name of its occurrence if that is demanded. -/
lemma mem_exportScope_see (context : ExportContext) (sighting : Sighting) (name : String) :
    name ∈ (known.see context sighting).exportScope ↔
      name ∈ context.exportScope ∨ ∃ occurrence, sighting.occurrence? = some occurrence ∧
        occurrence.first = name ∧ known.Demands occurrence.visibility name context := by
  obtain ⟨exposing, visibility, mention⟩ := sighting
  cases mention with
  | name kind first rest loc sized =>
      simp only [see, follow, reference_eq, Sighting.occurrence?, Option.some.injEq,
        exists_eq_left', NameSet.mem_ite_insert]
      refine or_congr_right (and_congr_right ?_)
      rintro rfl
      rfl
  | call callee captures =>
      have hscope : (known.singletonCall callee captures context).exportScope =
          context.exportScope := by
        rw [singletonCall_eq]
        split_ifs <;> rfl
      simp [see, follow, hscope, Sighting.occurrence?]

/-- All sightings export the names of the occurrences that demand it: no step of the walk
changes what is demanded. -/
lemma mem_exportScope_foldl_see (sightings : List Sighting) (context : ExportContext)
    (name : String) :
    name ∈ (sightings.foldl known.see context).exportScope ↔
      name ∈ context.exportScope ∨
        ∃ occurrence ∈ sightings.filterMap Sighting.occurrence?, occurrence.first = name ∧
          known.Demands occurrence.visibility name context := by
  induction sightings generalizing context with
  | nil => simp
  | cons sighting more ih =>
      have hdemands : ∀ visibility, known.Demands visibility name (known.see context sighting) ↔
          known.Demands visibility name context := fun visibility =>
        known.demands_congr (known.tag?_see context sighting name)
      rw [List.foldl_cons, ih, mem_exportScope_see]
      simp only [hdemands, List.filterMap_cons]
      cases sighting.occurrence? with
      | none => simp
      | some occurrence => simp [or_assoc]

lemma abstractTypes_foldl_see (sightings : List Sighting) (context : ExportContext) :
    (sightings.foldl known.see context).abstractTypes = context.abstractTypes := by
  induction sightings generalizing context with
  | nil => rfl
  | cons sighting more ih => rw [List.foldl_cons, ih, abstractTypes_see]

lemma tag?_foldl_see (sightings : List Sighting) (context : ExportContext) (name : String) :
    (sightings.foldl known.see context).tag? name = context.tag? name := by
  induction sightings generalizing context with
  | nil => rfl
  | cons sighting more ih => rw [List.foldl_cons, ih, tag?_see]

end Surroundings

/-! ### The start of the walk -/

/-- Noting which imports give access to internals changes nothing else. -/
lemma classifyImports_eq (current : ModulePath) (internal : ModuleSet) (imports : List Import)
    (context : ExportContext) :
    ∃ kinds, classifyImports current internal imports context =
      { context with internalImports := kinds } := by
  induction imports generalizing context with
  | nil => exact ⟨context.internalImports, rfl⟩
  | cons decl more ih =>
      rw [classifyImports, List.foldl_cons]
      cases decl.internalKind? current internal with
      | none => exact ih context
      | some kind =>
          obtain ⟨kinds, hkinds⟩ := ih (context.classifyImport decl.localName.id kind)
          exact ⟨kinds, hkinds⟩

section Seed

variable (symbols : SymbolTable) (context : ExportContext) (member : Member) (name : String)

/-- An exposed member is exported. -/
lemma mem_exportScope_seedMember :
    name ∈ (seedMember symbols context member).exportScope ↔
      name ∈ context.exportScope ∨ member.name.id = name ∧ symbols.isExposed name = true := by
  have hscope : (seedMember symbols context member).exportScope =
      if symbols.isExposed member.name.id then context.exportScope.insert member.name.id
      else context.exportScope := by
    simp only [seedMember, seedAbstractType, seedSingleton]
    cases member.abstractKind? with
    | none => split_ifs <;> rfl
    | some kind => split_ifs <;> rfl
  rw [hscope, NameSet.mem_ite_insert]
  refine or_congr_right (and_congr_right ?_)
  rintro rfl
  rfl

/-- How much of a singleton with a name is exported. -/
def tagOf : SingletonTag := if symbols.isExposed name then .translucent else .byName

/-- The first singleton with a name is noted with a tag that hangs on the name only, and without
usages. -/
lemma singletons_seedMember :
    (seedMember symbols context member).singletons[name]? =
      context.singletons[name]?.or
        (if member.name.id = name ∧ member.isSingleton = true then some ⟨tagOf symbols name, []⟩
        else none) := by
  have hsingletons : (seedMember symbols context member).singletons =
      if member.isSingleton then
        context.singletons.insertIfNew member.name.id ⟨tagOf symbols member.name.id, []⟩
      else context.singletons := by
    simp only [seedMember, seedAbstractType, seedSingleton, tagOf]
    cases member.abstractKind? with
    | none => split_ifs <;> rfl
    | some kind => split_ifs <;> rfl
  rw [hsingletons]
  by_cases hsingleton : member.isSingleton = true
  · rw [if_pos hsingleton, NameMap.getElem?_insertIfNew]
    congr 1
    by_cases hname : member.name.id = name
    · simp [hname, hsingleton]
    · simp [hname, Ne.symm hname]
  · simp [hsingleton]

/-- A type that is not exposed is noted with its kind. -/
lemma abstractTypes_seedMember :
    (seedMember symbols context member).abstractTypes[name]? =
      (if member.name.id = name ∧ symbols.isExposed name = false then member.abstractKind?
        else none).or context.abstractTypes[name]? := by
  have hbelow : ∀ context : ExportContext,
      (seedSingleton member (symbols.isExposed member.name.id)
        (if symbols.isExposed member.name.id then context.exportName member.name.id
          else context)).abstractTypes = context.abstractTypes := by
    intro context
    rw [seedSingleton]
    split_ifs <;> rfl
  simp only [seedMember, seedAbstractType]
  cases member.abstractKind? with
  | none => simp [hbelow]
  | some kind =>
      by_cases hexposed : symbols.isExposed member.name.id = true
      · have hnot : ¬(member.name.id = name ∧ symbols.isExposed name = false) := by
          rintro ⟨rfl, h⟩
          simp [h] at hexposed
        simpa [hexposed, hnot] using congrArg (·[name]?) (hbelow context)
      · simp only [hexposed, Bool.false_eq_true, ↓reduceIte, ExportContext.declareAbstractType,
          Std.ExtTreeMap.getElem?_insert, Std.LawfulEqOrd.compare_eq_iff_eq]
        by_cases hname : member.name.id = name
        · subst hname
          simp [hexposed]
        · have hsame := congrArg (·[name]?) (hbelow context)
          simpa [hname, hexposed] using hsame

variable (members : List Member)

lemma mem_exportScope_foldl_seedMember :
    name ∈ (members.foldl (seedMember symbols) context).exportScope ↔
      name ∈ context.exportScope ∨
        name ∈ members.map (·.name.id) ∧ symbols.isExposed name = true := by
  induction members generalizing context with
  | nil => simp
  | cons member more ih =>
      rw [List.foldl_cons, ih, mem_exportScope_seedMember, List.map_cons, List.mem_cons,
        or_and_right, or_assoc, @eq_comm _ name]

lemma singletons_foldl_seedMember :
    (members.foldl (seedMember symbols) context).singletons[name]? =
      context.singletons[name]?.or
        (if ∃ member ∈ members, member.name.id = name ∧ member.isSingleton = true then
          some ⟨tagOf symbols name, []⟩ else none) := by
  induction members generalizing context with
  | nil => simp
  | cons member more ih =>
      rw [List.foldl_cons, ih, singletons_seedMember, Option.or_assoc]
      congr 1
      by_cases hmember : member.name.id = name ∧ member.isSingleton = true
      · have hsome : ∃ other ∈ member :: more, other.name.id = name ∧ other.isSingleton = true :=
          ⟨member, List.mem_cons_self, hmember⟩
        rw [if_pos hmember, if_pos hsome, Option.some_or]
      · rw [if_neg hmember, Option.none_or]
        simp [hmember]

/-- Of the types that are declared under a name the last one counts. -/
lemma abstractTypes_foldl_seedMember :
    (members.foldl (seedMember symbols) context).abstractTypes[name]? =
      (if symbols.isExposed name = true then none
        else ((members.filter (·.name.id = name)).filterMap Member.abstractKind?).getLast?).or
          context.abstractTypes[name]? := by
  induction members using List.reverseRecOn with
  | nil => simp
  | append_singleton front member ih =>
      rw [List.foldl_append, List.foldl_cons, List.foldl_nil, abstractTypes_seedMember, ih,
        List.filter_append, List.filterMap_append, List.getLast?_append]
      by_cases hname : member.name.id = name
      · by_cases hexposed : symbols.isExposed name = true
        · simp [hexposed]
        · cases hkind : member.abstractKind? <;> simp [hname, hexposed, hkind]
      · simp [hname]

end Seed

section

variable (unit : CompilationUnit) (current : ModulePath) (internal : ModuleSet) (name : String)

/-- Before the walk just the exposed members are exported. -/
lemma mem_exportScope_exportSeed :
    name ∈ (exportSeed unit current (.ofUnit unit) internal).exportScope ↔
      unit.Declares name ∧ name ∈ unit.exposes := by
  obtain ⟨kinds, hkinds⟩ := classifyImports_eq current internal unit.imports .empty
  rw [exportSeed, hkinds, mem_exportScope_foldl_seedMember, SymbolTable.isExposed_ofUnit,
    decide_eq_true_iff, CompilationUnit.Declares]
  simp [ExportContext.empty]

/-- Before the walk just the singletons of the unit are known, without usages. -/
lemma singletons_exportSeed :
    (exportSeed unit current (.ofUnit unit) internal).singletons[name]? =
      if unit.IsSingleton name then some ⟨tagOf (.ofUnit unit) name, []⟩ else none := by
  obtain ⟨kinds, hkinds⟩ := classifyImports_eq current internal unit.imports .empty
  have hnone : (∅ : NameMap SingletonSignature)[name]? = none := Std.ExtTreeMap.getElem?_empty
  rw [exportSeed, hkinds, singletons_foldl_seedMember, ExportContext.empty, hnone, Option.none_or]
  rfl

/-- A hidden name has the tag of what is exported by name iff it is that of a singleton. -/
lemma tag?_exportSeed (hhidden : name ∉ unit.exposes) :
    (exportSeed unit current (.ofUnit unit) internal).tag? name = some .byName ↔
      unit.IsSingleton name := by
  have htag : tagOf (.ofUnit unit) name = .byName := by
    rw [tagOf, SymbolTable.isExposed_ofUnit]
    simp [hhidden]
  rw [ExportContext.tag?, singletons_exportSeed, htag]
  split_ifs with h
  · simp [h]
  · simp [h]

/-- Before the walk the types that are not exposed are known with their kinds. -/
lemma abstractTypes_exportSeed :
    (exportSeed unit current (.ofUnit unit) internal).abstractTypes[name]? =
      if name ∈ unit.exposes then none else unit.typeKind? name := by
  obtain ⟨kinds, hkinds⟩ := classifyImports_eq current internal unit.imports .empty
  rw [exportSeed, hkinds, abstractTypes_foldl_seedMember, SymbolTable.isExposed_ofUnit,
    CompilationUnit.typeKind?]
  simp [ExportContext.empty]

end

/-! ### The export scope of a unit -/

section

variable (unit : CompilationUnit) (current : ModulePath) (facts : Facts) (internal : ModuleSet)
  (name : String)

/-- At the start of the walk it is settled which occurrences demand that their names are
exported by name. -/
lemma demands_exportSeed (visibility : Visibility) :
    Surroundings.Demands ⟨.ofUnit unit, facts, unit.isInternal⟩ visibility name
        (exportSeed unit current (.ofUnit unit) internal) ↔
      visibility = .semitransparent ∧ unit.Hides name ∧
        (name ∈ facts.abstractTypes ∨ unit.IsSingleton name) := by
  rw [Surroundings.Demands, SymbolTable.isHidden_ofUnit, decide_eq_true_iff]
  refine and_congr_right fun _ => and_congr_right fun hhidden => ?_
  rw [Surroundings.mayStayOpaque, Bool.or_eq_true, Std.ExtTreeSet.contains_iff_mem,
    ExportContext.isByNameSingleton_eq, decide_eq_true_iff,
    tag?_exportSeed unit current internal name hhidden.2]

/-- What is in the export scope after the walk. -/
lemma mem_exportScope_collectExports :
    name ∈ (collectExports unit current (.ofUnit unit) facts internal).exportScope ↔
      (unit.Declares name ∧ name ∈ unit.exposes) ∨ unit.Demanded facts name := by
  rw [collectExports_eq_foldl, Surroundings.mem_exportScope_foldl_see,
    mem_exportScope_exportSeed, ← CompilationUnit.occurrences]
  refine or_congr_right ?_
  simp only [demands_exportSeed]
  constructor
  · rintro ⟨occurrence, hmem, hfirst, hvisibility, hhidden, hnameable⟩
    exact ⟨hhidden, ⟨occurrence, hmem, hfirst, hvisibility⟩, hnameable⟩
  · rintro ⟨hhidden, ⟨occurrence, hmem, hfirst, hvisibility⟩, hnameable⟩
    exact ⟨occurrence, hmem, hfirst, hvisibility, hhidden, hnameable⟩

/-- What is known of the types that are not exposed after the walk, which learns of none. -/
lemma abstractTypes_collectExports :
    (collectExports unit current (.ofUnit unit) facts internal).abstractTypes[name]? =
      if name ∈ unit.exposes then none else unit.typeKind? name := by
  rw [collectExports_eq_foldl, Surroundings.abstractTypes_foldl_see, abstractTypes_exportSeed]

end

end BriskModules
