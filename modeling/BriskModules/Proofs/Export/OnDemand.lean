import BriskModules.Proofs.Export.Singletons
import BriskModules.Proofs.Import.Answers

/-!
What is exported on demand belongs to the unit.

A hidden name is exported by name if it is that of a type or of a singleton of the unit. Types
are known by their names alone, though, to which the imports add theirs: if a hidden name of
another kind shadows an abstract type that an import exposes, it is taken for a type as well
and is exported, too. Nothing else that is hidden is ever exported.

* `CompilationUnit.DeclaresType`: a type is declared under a name;
* `Facts.mem_abstractTypes_ofUnit`: the abstract types that a unit declares itself;
* `mem_exportScope_iff_of_hides`: the hidden names in the export scope;
* `inferExports_onDemand`: what is exported on demand;
* `inferExports_onDemand_shadowedType`: a constant that is exported instead of a type.
-/

namespace BriskModules

/-- A type is declared under a name. -/
def CompilationUnit.DeclaresType (unit : CompilationUnit) (name : String) : Prop :=
  ∃ member ∈ unit.members, member.name.id = name ∧ member.isType = true

instance (unit : CompilationUnit) (name : String) : Decidable (unit.DeclaresType name) :=
  inferInstanceAs (Decidable (∃ member ∈ unit.members, _ ∧ _))

/-- The abstract types that a unit declares itself are its types that are not exposed. -/
lemma Facts.mem_abstractTypes_ofUnit (unit : CompilationUnit) (name : String) :
    name ∈ (ofUnit unit).abstractTypes ↔ unit.DeclaresType name ∧ name ∉ unit.exposes := by
  rw [ofUnit, NameSet.mem_ofNames, localAbstractTypes, CompilationUnit.DeclaresType]
  simp only [List.mem_filter, List.mem_map, decide_eq_true_eq, and_assoc]
  refine and_congr_left fun _ => exists_congr fun member => and_congr_right fun _ => ?_
  exact and_comm

section

variable {α : Type} {unit : CompilationUnit} {current : ModulePath} {imports : Imports α}
  {internal : ModuleSet} {context : ExportContext}
  (h : inferExports unit current (.ofUnit unit) (.collect unit imports) internal = .ok context)

include h

/-- A hidden name is in the export scope iff it is revealed by name somewhere and is that of a
type, of a singleton or of an abstract type that an import adds. -/
lemma mem_exportScope_iff_of_hides {name : String} (hhidden : unit.Hides name) :
    name ∈ context.exportScope ↔
      (∃ occurrence ∈ unit.occurrences,
        occurrence.first = name ∧ occurrence.visibility = .semitransparent) ∧
      (unit.DeclaresType name ∨ unit.IsSingleton name ∨
        Facts.Adds imports ModuleInfo.abstractTypes unit.imports name) := by
  have hnameable : name ∈ (Facts.collect unit imports).abstractTypes ∨ unit.IsSingleton name ↔
      unit.DeclaresType name ∨ unit.IsSingleton name ∨
        Facts.Adds imports ModuleInfo.abstractTypes unit.imports name := by
    rw [Facts.mem_abstractTypes_collect, Facts.mem_abstractTypes_ofUnit, or_assoc,
      @or_comm (unit.IsSingleton name), and_iff_left hhidden.2]
  rw [ExportContext.exportScope_of_finish h, mem_exportScope_collectExports, ← hnameable]
  constructor
  · rintro (⟨-, hexposed⟩ | ⟨-, hrevealed, hnameable⟩)
    · exact absurd hexposed hhidden.2
    · exact ⟨hrevealed, hnameable⟩
  · rintro ⟨hrevealed, hnameable⟩
    exact .inr ⟨hhidden, hrevealed, hnameable⟩

/-- Every name in the export scope is declared. -/
lemma declares_of_mem_exportScope {name : String} (hscope : name ∈ context.exportScope) :
    unit.Declares name := by
  rw [ExportContext.exportScope_of_finish h, mem_exportScope_collectExports] at hscope
  exact hscope.elim (·.1) (·.hidden.1)

/-- The abstract types of a unit are the types in its export scope that are not exposed. -/
lemma mem_abstractTypes_iff (name : String) :
    name ∈ context.abstractTypes ↔
      name ∈ context.exportScope ∧ name ∉ unit.exposes ∧ unit.DeclaresType name := by
  have htype := unit.isSome_typeKind?_iff name
  rw [← Std.ExtTreeMap.isSome_getElem?_iff_mem, ExportContext.abstractTypes_of_finish h,
    abstractTypes_collectExports, ExportContext.exportScope_of_finish h,
    CompilationUnit.DeclaresType, ← htype]
  split_ifs with hscope hexposed
  · simp [hexposed]
  · simp [hscope, hexposed]
  · simp [hscope]

/-- **What is exported on demand belongs to the unit**: a name in the export scope is exposed,
or it is that of a type or of a singleton of the unit and is exported as such, unless it is
none of these and an import adds an abstract type under it; a hidden name that is neither that
of a type nor of a singleton is exported iff there is such an import and the name is revealed
by name somewhere. -/
theorem inferExports_onDemand :
    (∀ name ∈ context.exportScope,
      (unit.DeclaresType name ∨ unit.IsSingleton name ∨
        ¬Facts.Adds imports ModuleInfo.abstractTypes unit.imports name) →
      name ∈ unit.exposes ∨ (unit.DeclaresType name ∧ name ∈ context.abstractTypes) ∨
        (unit.IsSingleton name ∧ name ∈ context.singletons)) ∧
    ∀ name, unit.Hides name → ¬unit.DeclaresType name → ¬unit.IsSingleton name →
      (name ∈ context.exportScope ↔
        Facts.Adds imports ModuleInfo.abstractTypes unit.imports name ∧
          ∃ occurrence ∈ unit.occurrences,
            occurrence.first = name ∧ occurrence.visibility = .semitransparent) := by
  refine ⟨fun name hscope hkind => ?_, fun name hhidden htype hsingleton => ?_⟩
  · by_cases hexposed : name ∈ unit.exposes
    · exact .inl hexposed
    · have hhidden : unit.Hides name :=
        ⟨declares_of_mem_exportScope h hscope, hexposed⟩
      obtain ⟨-, hnameable⟩ := (mem_exportScope_iff_of_hides h hhidden).mp hscope
      by_cases htype : unit.DeclaresType name
      · exact .inr (.inl ⟨htype, (mem_abstractTypes_iff h name).mpr ⟨hscope, hexposed, htype⟩⟩)
      · -- no import adds the name, so it is that of a singleton
        have hsingleton : unit.IsSingleton name := by
          by_contra hnot
          simp only [htype, hnot, false_or] at hkind hnameable
          exact hkind hnameable
        have hfacts := Facts.covers_collect unit imports
        exact .inr (.inr ⟨hsingleton, (mem_singletons_iff hfacts h name).mpr
          ⟨hsingleton, hscope⟩⟩)
  · rw [mem_exportScope_iff_of_hides h hhidden, and_comm]
    simp only [htype, hsingleton, false_or]

end

/-- A module with a type and a singleton that are not exposed, and with a constant that has the
name of an imported type; it exposes a function that is evaluated during compilation and refers
to all of them. -/
def shadowedType : CompilationUnit where
  imports := [{ localName := ⟨"m", {}⟩, path := "m", exposing := [⟨"Size", {}⟩] }]
  spec := some { exposes := [⟨"limit", {}⟩] }
  members := [
    .var { name := ⟨"Size", {}⟩, permission := .const, init := some (.int 8) },
    .type ⟨⟨"T", {}⟩, .opaqueType⟩,
    .prototype { name := ⟨"tick", {}⟩, kind := .function, singleton := true },
    .subprogram
      { name := ⟨"limit", {}⟩, kind := .function, compileTime := true,
        inputs := [⟨⟨"x", {}⟩, .ofDotted "T"⟩],
        body := [.call (.ofDotted "tick"), .ret (some (.path (.ofDotted "Size")))] }]

/-- The module at a path, which exports a type of the name `Size` by name. -/
def sizeModule (path : ModulePath) : ModuleInfo Unit where
  path := path
  file := ⟨path.file ++ ".brk"⟩
  imports := []
  spec := some {}
  symbols := .empty
  exports := .empty
  singletons := ∅
  abstractTypes := .ofNames ["Size"]
  checked := ()

/-- What is registered when this module is imported. -/
def sizeImports : Imports Unit :=
  (Imports.empty (.root ⟨none, [], "a"⟩)).register "m" ⟨none, [], "m"⟩
    (sizeModule ⟨none, [], "m"⟩)

/-- The type and the singleton are exported as what they are. -/
theorem inferExports_onDemand_typeAndSingleton :
    ∃ context, inferExports shadowedType ⟨none, [], "a"⟩ (.ofUnit shadowedType)
        (.collect shadowedType sizeImports) sizeImports.internal = .ok context ∧
      "T" ∈ context.exportScope ∧ "T" ∈ context.abstractTypes ∧
      "tick" ∈ context.exportScope ∧ "tick" ∈ context.singletons := by
  obtain ⟨context, hcontext⟩ : ∃ context, inferExports shadowedType ⟨none, [], "a"⟩
      (.ofUnit shadowedType) (.collect shadowedType sizeImports) sizeImports.internal =
        .ok context :=
    exists_inferExports_eq_ok (by decide +kernel)
  obtain ⟨hown, -⟩ := inferExports_onDemand hcontext
  have htype : "T" ∈ context.exportScope :=
    (mem_exportScope_iff_of_hides hcontext (by decide)).mpr ⟨by decide +kernel, .inl (by decide)⟩
  have htick : "tick" ∈ context.exportScope :=
    (mem_exportScope_iff_of_hides hcontext (by decide)).mpr
      ⟨by decide +kernel, .inr (.inl (by decide))⟩
  refine ⟨context, hcontext, htype, ?_, htick, ?_⟩
  · rcases hown "T" htype (.inl (by decide)) with hexposed | ⟨-, hknown⟩ | ⟨hsingleton, -⟩
    · exact absurd hexposed (by decide)
    · exact hknown
    · exact absurd hsingleton (by decide)
  · rcases hown "tick" htick (.inr (.inl (by decide))) with hexposed | ⟨htype, -⟩ | ⟨-, hknown⟩
    · exact absurd hexposed (by decide)
    · exact absurd htype (by decide)
    · exact hknown

/-- A hidden constant is exported where it shadows an imported type. -/
theorem inferExports_onDemand_shadowedType :
    (checkImports shadowedType ⟨none, [], "a"⟩ (.root ⟨none, [], "a"⟩)
        (fun path _ => return .ok (sizeModule path) : Capability Unit Unit)).run () =
      some (.ok sizeImports, ()) ∧
    ∃ context, inferExports shadowedType ⟨none, [], "a"⟩ (.ofUnit shadowedType)
        (.collect shadowedType sizeImports) sizeImports.internal = .ok context ∧
      "Size" ∈ context.exportScope ∧
      ¬("Size" ∈ shadowedType.exposes ∨
        (shadowedType.DeclaresType "Size" ∧ "Size" ∈ context.abstractTypes) ∨
        (shadowedType.IsSingleton "Size" ∧ "Size" ∈ context.singletons)) := by
  refine ⟨rfl, ?_⟩
  obtain ⟨context, hcontext⟩ : ∃ context, inferExports shadowedType ⟨none, [], "a"⟩
      (.ofUnit shadowedType) (.collect shadowedType sizeImports) sizeImports.internal =
        .ok context :=
    exists_inferExports_eq_ok (by decide +kernel)
  have hadds : Facts.Adds sizeImports ModuleInfo.abstractTypes shadowedType.imports "Size" :=
    ⟨_, List.mem_cons_self, sizeModule ⟨none, [], "m"⟩, rfl, by decide +kernel⟩
  have hscope : "Size" ∈ context.exportScope :=
    (mem_exportScope_iff_of_hides hcontext (by decide)).mpr
      ⟨by decide +kernel, .inr (.inr hadds)⟩
  refine ⟨context, hcontext, hscope, ?_⟩
  rintro (hexposed | ⟨htype, -⟩ | ⟨hsingleton, -⟩)
  · exact absurd hexposed (by decide)
  · exact absurd htype (by decide)
  · exact absurd hsingleton (by decide)

end BriskModules
