import BriskModules.Proofs.Export.Errors
import BriskModules.Proofs.Import.Answers

/-!
No internals leak, from the check of the imports to the errors of the exports.

The check resolves each import and keeps the internal modules by path; the walk resolves the
imports again and keeps the imports of internals by local name. Since no target is imported
twice, both see the same modules, so a local name gives access to internals just if one of
its imports is a whitebox import or was answered with an internal module.

* `isSome_internalKind?_iff`: which local names give access to internals;
* `inferExports_eq_error_iff`: the errors of a unit as a list;
* `Occurrence.leakError_mem_iff`: when a leak is reported for an occurrence;
* `inferExports_leak_iff`: what is reported of a unit whose imports have been checked.
-/

namespace BriskModules

/-! ### Imports of internals -/

/-- A local name gives access to internals iff an import with that name does. -/
lemma CompilationUnit.isSome_internalKind?_iff (unit : CompilationUnit) (current : ModulePath)
    (internal : ModuleSet) (owner : String) :
    (unit.internalKind? current internal owner).isSome = true ↔
      ∃ decl ∈ unit.imports, decl.localName.id = owner ∧
        (decl.internalKind? current internal).isSome = true := by
  rw [internalKind?, List.getLast?_isSome, Ne, List.filterMap_eq_nil_iff]
  simp only [List.mem_filter, decide_eq_true_eq, and_imp, not_forall, exists_prop,
    Option.isSome_iff_ne_none]

/-- An import gives access to internals iff it is a whitebox import or leads to an internal
module. -/
lemma Import.isSome_internalKind?_iff {decl : Import} {current target : ModulePath}
    {internal : ModuleSet} (h : resolveImport current decl.path = .ok target) :
    (decl.internalKind? current internal).isSome = true ↔
      decl.whitebox = true ∨ internal.contains target = true := by
  rw [internalKind?, h]
  by_cases hwhitebox : decl.whitebox = true
  · simp [hwhitebox]
  · by_cases hinternal : internal.contains target = true <;> simp [hwhitebox, hinternal]

/-- Among imports that have been answered, a local name gives access to internals iff one of
its links is a whitebox import or leads to an internal module. -/
lemma Answers.isSome_internalKind?_iff {σ α : Type} {unit : CompilationUnit}
    {current : ModulePath} {chain : ImportChain} {require : Capability σ α}
    {links : List (Link α)} {before after : σ}
    (h : Answers require current chain unit.imports before links after)
    (hnodup : (links.map Link.target).Nodup) (owner : String) :
    (unit.internalKind? current ((Imports.empty chain).addLinks links).internal
        owner).isSome = true ↔
      ∃ link ∈ links, link.decl.localName.id = owner ∧
        (link.decl.whitebox = true ∨ link.module.isInternal = true) := by
  rw [unit.isSome_internalKind?_iff, ← h.map_decl]
  simp only [List.mem_map, exists_exists_and_eq_and]
  refine exists_congr fun link => and_congr_right fun hlink => and_congr_right fun _ => ?_
  rw [Import.isSome_internalKind?_iff (h.resolves link hlink),
    Imports.contains_internal_of_mem hnodup hlink]

/-! ### Errors that are leaks -/

section

variable (unit : CompilationUnit) (current : ModulePath) (facts : Facts) (internal : ModuleSet)

/-- Inferring exports fails with the errors of the occurrences, if there are any. -/
lemma inferExports_eq_error_iff (errors : List ExportError) :
    inferExports unit current (.ofUnit unit) facts internal = .error errors ↔
      errors ≠ [] ∧ errors = unit.occurrences.filterMap (·.error? unit current internal) := by
  rw [inferExports, ExportContext.finish, errors_collectExports]
  split_ifs with hnil
  · simp [hnil]
  · rw [Except.error.injEq]
    constructor
    · rintro rfl
      exact ⟨hnil, rfl⟩
    · exact fun h => h.2.symm

namespace Occurrence

variable (occurrence : Occurrence)

lemma owner?_hiddenError : occurrence.hiddenError.owner? = none := by
  rw [hiddenError]
  cases occurrence.kind <;> rfl

lemma owner?_leakError (owner : String) (kind : InternalKind) :
    (occurrence.leakError unit owner kind).owner? = some owner := by
  cases kind <;> rfl

lemma leak?_eq_some_iff (owner : String) (kind : InternalKind) :
    occurrence.leak? unit current internal = some (owner, kind) ↔
      unit.isInternal = false ∧ unit.owner? occurrence.first = some owner ∧
        unit.internalKind? current internal owner = some kind := by
  rw [leak?]
  cases unit.isInternal with
  | true => simp
  | false =>
      simp only [Bool.false_eq_true, ↓reduceIte, Option.bind_eq_some_iff, Option.map_eq_some_iff,
        Prod.mk.injEq, true_and]
      constructor
      · rintro ⟨_, howner, _, hkind, rfl, rfl⟩
        exact ⟨howner, hkind⟩
      · rintro ⟨howner, hkind⟩
        exact ⟨owner, howner, kind, hkind, rfl, rfl⟩

variable {unit current internal occurrence} in
/-- An error that names an import of internals is that of an occurrence from this import. -/
lemma leak?_of_error? {error : ExportError} {owner : String}
    (h : occurrence.error? unit current internal = some error)
    (howner : error.owner? = some owner) :
    ∃ kind, occurrence.leak? unit current internal = some (owner, kind) := by
  rw [error?] at h
  split_ifs at h with hvisible hhidden
  · rw [← Option.some.inj h, owner?_hiddenError] at howner
    cases howner
  · obtain ⟨⟨found, kind⟩, hleak, rfl⟩ := Option.map_eq_some_iff.mp h
    rw [owner?_leakError] at howner
    obtain rfl := Option.some.inj howner
    exact ⟨kind, hleak⟩

variable {unit occurrence} in
/-- A leak is reported for an occurrence that is revealed fully iff it comes from an import of
internals: no other occurrence has an error that names the import it comes from. -/
lemma exists_leakError_mem_iff (hmem : occurrence ∈ unit.occurrences)
    (hvisible : occurrence.visibility = .transparent) :
    (∃ owner kind, unit.owner? occurrence.first = some owner ∧
      occurrence.leakError unit owner kind ∈
        unit.occurrences.filterMap (·.error? unit current internal)) ↔
      unit.isInternal = false ∧ ∃ owner, unit.owner? occurrence.first = some owner ∧
        (unit.internalKind? current internal owner).isSome = true := by
  constructor
  · rintro ⟨owner, kind, howner, herror⟩
    obtain ⟨other, -, hother⟩ := List.mem_filterMap.mp herror
    obtain ⟨found, hleak⟩ := leak?_of_error? hother (owner?_leakError unit occurrence owner kind)
    obtain ⟨hexternal, -, hfound⟩ := (other.leak?_eq_some_iff unit current internal _ _).mp hleak
    exact ⟨hexternal, owner, howner, by rw [hfound, Option.isSome_some]⟩
  · rintro ⟨hexternal, owner, howner, hkind⟩
    obtain ⟨kind, hkind⟩ := Option.isSome_iff_exists.mp hkind
    have hshown : ¬unit.Hides occurrence.first := by
      rintro ⟨hdeclares, -⟩
      rw [CompilationUnit.owner?, if_pos hdeclares] at howner
      cases howner
    have hleak := (occurrence.leak?_eq_some_iff unit current internal owner kind).mpr
      ⟨hexternal, howner, hkind⟩
    refine ⟨owner, kind, howner, List.mem_filterMap.mpr ⟨occurrence, hmem, ?_⟩⟩
    rw [error?, if_pos hvisible, if_neg hshown, hleak, Option.map_some]

end Occurrence

end

/-! ### From the check of the imports to the errors of the exports -/

/-- **No internals leak**: once the imports of a unit have been checked, inferring its exports
reports a leak for an occurrence that is revealed fully iff the import that the name comes from
has a link with its local name that is a whitebox import or was answered with an internal
module, unless the unit is itself internal, for which no leak is reported. -/
theorem inferExports_leak_iff {σ α : Type} {unit : CompilationUnit} {current : ModulePath}
    {chain : ImportChain} {require : Capability σ α} {before after : σ} {imports : Imports α}
    (h : (checkImports unit current chain require).run before = some (.ok imports, after)) :
    ∃ links, Answers require current chain unit.imports before links after ∧
      (unit.isInternal = false → ∀ occurrence ∈ unit.occurrences,
        occurrence.visibility = .transparent →
          ((∃ errors, inferExports unit current (.ofUnit unit) (.collect unit imports)
              imports.internal = .error errors ∧
              ∃ owner kind, (SymbolTable.ofUnit unit).owner? occurrence.first = some owner ∧
                occurrence.leakError unit owner kind ∈ errors) ↔
            ∃ owner, (SymbolTable.ofUnit unit).owner? occurrence.first = some owner ∧
              ∃ link ∈ links, link.decl.localName.id = owner ∧
                (link.decl.whitebox = true ∨ link.module.isInternal = true))) ∧
      (unit.isInternal = true → ∀ errors, inferExports unit current (.ofUnit unit)
        (.collect unit imports) imports.internal = .error errors →
          ∀ error ∈ errors, error.owner? = none) := by
  obtain ⟨links, hanswers, rfl, hnodup⟩ := answers_of_checkImports h
  refine ⟨links, hanswers, fun hexternal occurrence hmem hvisible => ?_,
    fun hinternal errors herrors error herror => ?_⟩
  · have hreported := Occurrence.exists_leakError_mem_iff current
      ((Imports.empty chain).addLinks links).internal hmem hvisible
    simp only [hexternal, true_and, hanswers.isSome_internalKind?_iff hnodup] at hreported
    simp only [SymbolTable.owner?_ofUnit, inferExports_eq_error_iff, ← hreported]
    constructor
    · rintro ⟨_, ⟨-, rfl⟩, hleak⟩
      exact hleak
    · rintro ⟨owner, kind, howner, hleak⟩
      exact ⟨_, ⟨List.ne_nil_of_mem hleak, rfl⟩, owner, kind, howner, hleak⟩
  · obtain ⟨-, rfl⟩ := (inferExports_eq_error_iff unit current _ _ errors).mp herrors
    obtain ⟨occurrence, -, herror⟩ := List.mem_filterMap.mp herror
    cases howner : error.owner? with
    | none => rfl
    | some owner =>
        obtain ⟨kind, hleak⟩ := Occurrence.leak?_of_error? herror howner
        have hexternal := ((occurrence.leak?_eq_some_iff unit current _ _ _).mp hleak).1
        rw [hinternal] at hexternal
        cases hexternal

/-- A unit that imports two modules under one local name and reveals a type with this name. -/
def sharedLocalName : CompilationUnit where
  imports := [
    { localName := ⟨"m", {}⟩, path := "inner" },
    { localName := ⟨"m", {}⟩, path := "outer" }]
  spec := some { exposes := [⟨"limit", {}⟩] }
  members := [
    .var { name := ⟨"limit", {}⟩, permission := .const, datatype := some (.ofDotted "m.T") }]

/-- A capability that makes an empty module of every path, internal if its file is called
`inner`, and counts how often it is used. -/
def countingCapability : Capability Nat Unit := fun target _ => do
  modify (· + 1)
  return .ok
    { path := target, file := ⟨target.file ++ ".brk"⟩, imports := [],
      spec := some { exposes := [], isInternal := target.file = "inner" }, symbols := .empty,
      exports := .empty, singletons := ∅, abstractTypes := ∅, checked := () }

/-- The internal module of two with one local name is not forgotten for the other one. -/
theorem inferExports_leak_sharedLocalName :
    ∃ imports, (checkImports sharedLocalName ⟨none, [], "a"⟩ (.root ⟨none, [], "a"⟩)
        countingCapability).run 0 = some (.ok imports, 2) ∧
      ∃ errors, inferExports sharedLocalName ⟨none, [], "a"⟩ (.ofUnit sharedLocalName)
          (.collect sharedLocalName imports) imports.internal = .error errors ∧
        ∃ error ∈ errors, error.owner? = some "m" := by
  have hchecked : ∃ imports, (checkImports sharedLocalName ⟨none, [], "a"⟩
      (.root ⟨none, [], "a"⟩) countingCapability).run 0 = some (.ok imports, 2) := by
    exact ⟨_, rfl⟩
  obtain ⟨imports, hchecked⟩ := hchecked
  obtain ⟨links, hanswers, hleak, -⟩ := inferExports_leak_iff hchecked
  obtain ⟨occurrence, hmem, hvisible, howner⟩ : ∃ occurrence ∈ sharedLocalName.occurrences,
      occurrence.visibility = .transparent ∧
        (SymbolTable.ofUnit sharedLocalName).owner? occurrence.first = some "m" := by
    decide +kernel
  -- the first link is that of the internal module
  have hlink : ∃ link ∈ links, link.decl.localName.id = "m" ∧
      (link.decl.whitebox = true ∨ link.module.isInternal = true) := by
    obtain _ | ⟨hresolves, hanswered, -⟩ := hanswers
    have htarget : resolveImport ⟨none, [], "a"⟩ "inner" = .ok ⟨none, [], "inner"⟩ := by
      decide +kernel
    obtain rfl := Except.ok.inj (hresolves.symm.trans htarget)
    obtain ⟨hinfo, -⟩ := Prod.mk.inj (Option.some.inj hanswered)
    obtain rfl := Except.ok.inj hinfo
    exact ⟨_, List.mem_cons_self, rfl, .inr rfl⟩
  obtain ⟨errors, herrors, owner, kind, howner', herror⟩ :=
    (hleak rfl occurrence hmem hvisible).mpr ⟨"m", howner, hlink⟩
  obtain rfl := Option.some.inj (howner.symm.trans howner')
  exact ⟨imports, hchecked, errors, herrors, _, herror, occurrence.owner?_leakError _ _ _⟩

end BriskModules
