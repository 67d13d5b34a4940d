import BriskModules.Proofs.Export.Calls
import BriskModules.Proofs.Export.Scope

/-!
The imports that importers of a unit need too.

A name from an import is required once something in the unit needs it: a reference at a place
that reveals anything, or a call of a singleton, which needs the first name of its callee
whatever its place reveals. The owner with which it is required hangs on the name only, so it
does not matter which of them comes first.

* `CompilationUnit.Needs`: a name is needed somewhere in a unit;
* `Surroundings.Needs`, `exists_needs_iff`: what a walk sees of that;
* `requiredImports_see`, `requiredImports_foldl_see`: what one sighting and all sightings
  require;
* `inferExports_requiredImports`: the imports that a unit requires.
-/

namespace BriskModules

/-- A name is needed in a unit: it is revealed somewhere at least by name, or it is the first
name of the callee where a singleton is called that the facts know. -/
def CompilationUnit.Needs (unit : CompilationUnit) (facts : Facts) (name : String) : Prop :=
  (∃ occurrence ∈ unit.occurrences,
    occurrence.first = name ∧ occurrence.visibility ≠ .invisible) ∨
  ∃ call ∈ unit.calls, call.callee.first.id = name ∧ call.key ∈ facts.singletons

instance (unit : CompilationUnit) (facts : Facts) (name : String) :
    Decidable (unit.Needs facts name) :=
  inferInstanceAs (Decidable (_ ∨ _))

namespace Surroundings

variable (known : Surroundings)

/-- A sighting needs a name. -/
def Needs (name : String) (sighting : Sighting) : Prop :=
  match sighting.mention with
  | .name _ first _ _ sized => first = name ∧ sighting.visibility.within sized ≠ .invisible
  | .call callee _ => callee.headD "" = name ∧ known.IsSingleton callee

instance (name : String) : (sighting : Sighting) → Decidable (known.Needs name sighting)
  | ⟨_, _, .name ..⟩ => inferInstanceAs (Decidable (_ ∧ _))
  | ⟨_, _, .call ..⟩ => inferInstanceAs (Decidable (_ ∧ _))

/-- What a sighting needs is required from then on, if it comes from an import. -/
lemma requiredImports_see (context : ExportContext) (sighting : Sighting) (name : String) :
    (known.see context sighting).requiredImports[name]? =
      context.requiredImports[name]?.or
        (if known.Needs name sighting then known.requirement? name else none) := by
  have hsame : ∀ first, (if name = first then known.requirement? first else none) =
      if first = name then known.requirement? name else none := by
    intro first
    by_cases hname : name = first
    · rw [hname]
    · rw [if_neg hname, if_neg (Ne.symm hname)]
  obtain ⟨exposing, visibility, mention⟩ := sighting
  cases mention with
  | name kind first rest loc sized =>
      rw [see, follow, reference_eq]
      by_cases hinvisible : visibility.within sized = .invisible
      · simp [Needs, hinvisible]
      · simp only [hinvisible, ↓reduceIte, getElem?_required, hsame, Needs, ne_eq,
          not_false_eq_true, and_true]
  | call callee captures =>
      rw [see, follow, singletonCall_eq]
      by_cases hsingleton : known.IsSingleton callee
      · simp only [hsingleton, ↓reduceIte, getElem?_required, hsame, Needs, and_true]
      · simp [Needs, hsingleton]

/-- What any sighting needs is required after all, if it comes from an import. -/
lemma requiredImports_foldl_see (sightings : List Sighting) (context : ExportContext)
    (name : String) :
    (sightings.foldl known.see context).requiredImports[name]? =
      context.requiredImports[name]?.or
        (if ∃ sighting ∈ sightings, known.Needs name sighting then known.requirement? name
        else none) := by
  induction sightings generalizing context with
  | nil => simp
  | cons sighting more ih =>
      rw [List.foldl_cons, ih, requiredImports_see, Option.or_assoc]
      congr 1
      by_cases hneeds : known.Needs name sighting
      · have hsome : ∃ other ∈ sighting :: more, known.Needs name other :=
          ⟨sighting, List.mem_cons_self, hneeds⟩
        rw [if_pos hneeds, if_pos hsome]
        split_ifs
        · exact Option.or_self
        · exact Option.or_none
      · rw [if_neg hneeds, Option.none_or]
        simp [hneeds]

end Surroundings

/-! ### What a unit requires -/

/-- A walk sees just what is needed in the unit. -/
lemma exists_needs_iff (unit : CompilationUnit) (symbols : SymbolTable) (facts : Facts)
    (isInternal : Bool) (name : String) :
    (∃ sighting ∈ unit.sightings, Surroundings.Needs ⟨symbols, facts, isInternal⟩ name sighting) ↔
      unit.Needs facts name := by
  have hcalls : (∃ call ∈ unit.calls, call.callee.first.id = name ∧
      call.key ∈ facts.singletons) ↔ ∃ sighting ∈ unit.sightings, ∃ site,
        sighting.site? = some site ∧ site.1.headD "" = name ∧
          Text.joined "." site.1 ∈ facts.singletons := by
    constructor
    · rintro ⟨call, hcall, hfirst, hsingleton⟩
      have hsite : call.site ∈ unit.sightings.filterMap Sighting.site? := by
        rw [unit.filterMap_site?_sightings]
        exact List.mem_map_of_mem hcall
      obtain ⟨sighting, hsighting, hsite⟩ := List.mem_filterMap.mp hsite
      exact ⟨sighting, hsighting, call.site, hsite, hfirst, hsingleton⟩
    · rintro ⟨sighting, hsighting, site, hsite, hfirst, hsingleton⟩
      have hmem : site ∈ unit.calls.map Call.site := by
        rw [← unit.filterMap_site?_sightings]
        exact List.mem_filterMap.mpr ⟨sighting, hsighting, hsite⟩
      obtain ⟨call, hcall, rfl⟩ := List.mem_map.mp hmem
      exact ⟨call, hcall, hfirst, hsingleton⟩
  have hneeds : ∀ sighting : Sighting,
      Surroundings.Needs ⟨symbols, facts, isInternal⟩ name sighting ↔
        (∃ occurrence, sighting.occurrence? = some occurrence ∧ occurrence.first = name ∧
          occurrence.visibility ≠ .invisible) ∨
        ∃ site, sighting.site? = some site ∧ site.1.headD "" = name ∧
          Text.joined "." site.1 ∈ facts.singletons := by
    rintro ⟨exposing, visibility, mention⟩
    cases mention with
    | name kind first rest loc sized =>
        simp [Surroundings.Needs, Sighting.occurrence?, Sighting.site?, Mention.site?]
    | call callee captures =>
        simp [Surroundings.Needs, Surroundings.IsSingleton, Sighting.occurrence?,
          Sighting.site?, Mention.site?]
  rw [CompilationUnit.Needs, hcalls, CompilationUnit.occurrences]
  simp only [hneeds, List.mem_filterMap, and_or_left, exists_or]
  refine or_congr_left ?_
  constructor
  · rintro ⟨sighting, hsighting, occurrence, hoccurrence, hfirst⟩
    exact ⟨occurrence, ⟨sighting, hsighting, hoccurrence⟩, hfirst⟩
  · rintro ⟨occurrence, ⟨sighting, hsighting, hoccurrence⟩, hfirst⟩
    exact ⟨sighting, hsighting, occurrence, hoccurrence, hfirst⟩

/-- Before the walk nothing is required. -/
lemma requiredImports_exportSeed (unit : CompilationUnit) (current : ModulePath)
    (symbols : SymbolTable) (internal : ModuleSet) :
    (exportSeed unit current symbols internal).requiredImports = ∅ := by
  have hmember : ∀ (context : ExportContext) (member : Member),
      (seedMember symbols context member).requiredImports = context.requiredImports := by
    intro context member
    simp only [seedMember, seedAbstractType, seedSingleton]
    cases member.abstractKind? with
    | none => split_ifs <;> rfl
    | some kind => split_ifs <;> rfl
  have hmembers : ∀ (members : List Member) (context : ExportContext),
      (members.foldl (seedMember symbols) context).requiredImports = context.requiredImports := by
    intro members
    induction members with
    | nil => exact fun context => rfl
    | cons member more ih => exact fun context => (ih _).trans (hmember context member)
  obtain ⟨kinds, hkinds⟩ := classifyImports_eq current internal unit.imports .empty
  rw [exportSeed, hkinds, hmembers]
  rfl

section

variable (unit : CompilationUnit) (current : ModulePath) (facts : Facts) (internal : ModuleSet)
  (name : String)

/-- What is required after the walk. -/
lemma requiredImports_collectExports :
    (collectExports unit current (.ofUnit unit) facts internal).requiredImports[name]? =
      if unit.Needs facts name then
        Surroundings.requirement? ⟨.ofUnit unit, facts, unit.isInternal⟩ name
      else none := by
  have hnone : (∅ : NameMap (Option String))[name]? = none := Std.ExtTreeMap.getElem?_empty
  rw [collectExports_eq_foldl, Surroundings.requiredImports_foldl_see, requiredImports_exportSeed,
    hnone, Option.none_or]
  exact if_congr (exists_needs_iff unit _ facts _ name) rfl rfl

/-- The owner with which a name is required, if it comes from an import. -/
lemma requirement?_ofUnit :
    Surroundings.requirement? ⟨.ofUnit unit, facts, unit.isInternal⟩ name =
      if unit.Declares name then none
      else if name ∈ unit.imports.map (·.localName.id) then some none
      else (unit.exposers name).getLast?.map fun decl => some decl.localName.id := by
  rw [Surroundings.requirement?, SymbolTable.importedAs?_ofUnit]
  split_ifs
  · rfl
  · rfl
  · rw [Option.map_map]
    rfl

/-- **The imports that a unit requires are exact**: they are the names that come from an import
and are needed in the unit, and each has as its owner the last import that exposes it, or none
if it is itself the local name of an import. -/
theorem inferExports_requiredImports {context : ExportContext}
    (h : inferExports unit current (.ofUnit unit) facts internal = .ok context) :
    (∀ name, name ∈ context.requiredImports ↔
      ¬unit.Declares name ∧
        (name ∈ unit.imports.map (·.localName.id) ∨
          ∃ decl ∈ unit.imports, name ∈ decl.exposing.map (·.id)) ∧
        unit.Needs facts name) ∧
    ∀ name owner, context.requiredImports[name]? = some owner →
      (owner = none ↔ name ∈ unit.imports.map (·.localName.id)) ∧
      (name ∉ unit.imports.map (·.localName.id) →
        ∃ decl, (unit.exposers name).getLast? = some decl ∧ owner = some decl.localName.id) := by
  have hrequired : ∀ name, context.requiredImports[name]? =
      if unit.Needs facts name then
        Surroundings.requirement? ⟨.ofUnit unit, facts, unit.isInternal⟩ name
      else none := by
    intro name
    rw [ExportContext.requiredImports_of_finish h, requiredImports_collectExports]
  have hexposers : ∀ name, ((unit.exposers name).getLast?.isSome = true ↔
      ∃ decl ∈ unit.imports, name ∈ decl.exposing.map (·.id)) := by
    intro name
    rw [List.getLast?_isSome, Ne, CompilationUnit.exposers, List.filter_eq_nil_iff]
    simp
  refine ⟨fun name => ?_, fun name owner howner => ?_⟩
  · rw [← Std.ExtTreeMap.isSome_getElem?_iff_mem, hrequired, requirement?_ofUnit, ← hexposers]
    split_ifs with hneeds hdeclares hlocal
    · simp [hdeclares]
    · simp [hneeds, hdeclares, hlocal]
    · simp [hneeds, hdeclares, hlocal]
    · simp [hneeds]
  · rw [hrequired, requirement?_ofUnit] at howner
    split_ifs at howner with hneeds hdeclares hlocal
    · obtain rfl := Option.some.inj howner
      exact ⟨⟨fun _ => hlocal, fun _ => rfl⟩, fun hnot => absurd hlocal hnot⟩
    · obtain ⟨decl, hlast, rfl⟩ := Option.map_eq_some_iff.mp howner
      have hsome : some decl.localName.id ≠ none := Option.some_ne_none _
      exact ⟨⟨fun heq => absurd heq hsome, fun hmem => absurd hmem hlocal⟩,
        fun _ => ⟨decl, hlast, rfl⟩⟩

end

/-- A module that reveals a type of one of its two imports, and calls a singleton that both of
them expose in a value that is not exposed. -/
def importedSingleton : CompilationUnit where
  imports := [
    { localName := ⟨"m", {}⟩, path := "m", exposing := [⟨"tick", {}⟩] },
    { localName := ⟨"n", {}⟩, path := "n", exposing := [⟨"tick", {}⟩] }]
  spec := some { exposes := [⟨"limit", {}⟩] }
  members := [
    .var { name := ⟨"limit", {}⟩, permission := .const, datatype := some (.ofDotted "m.T") },
    .var
      { name := ⟨"secret", {}⟩, permission := .const,
        init := some (.call (.ofDotted "tick")) }]

/-- The singleton is required from the last import, which is not required itself. -/
theorem inferExports_requiredImports_importedSingleton :
    ∃ context, inferExports importedSingleton ⟨none, [], "a"⟩ (.ofUnit importedSingleton)
        ⟨.ofNames ["tick"], ∅⟩ ∅ = .ok context ∧
      context.requiredImports["tick"]? = some (some "n") ∧
      context.requiredImports["m"]? = some none ∧ "n" ∉ context.requiredImports := by
  obtain ⟨context, hcontext⟩ : ∃ context, inferExports importedSingleton ⟨none, [], "a"⟩
      (.ofUnit importedSingleton) ⟨.ofNames ["tick"], ∅⟩ ∅ = .ok context :=
    exists_inferExports_eq_ok (by decide +kernel)
  obtain ⟨hmem, howner⟩ := inferExports_requiredImports importedSingleton ⟨none, [], "a"⟩
    ⟨.ofNames ["tick"], ∅⟩ ∅ hcontext
  have hfound : ∀ name, name ∈ context.requiredImports →
      ∃ owner, context.requiredImports[name]? = some owner := fun name h =>
    Option.isSome_iff_exists.mp (Std.ExtTreeMap.isSome_getElem?_iff_mem.mpr h)
  obtain ⟨tick, htick⟩ := hfound "tick" ((hmem "tick").mpr (by decide +kernel))
  obtain ⟨m, hm⟩ := hfound "m" ((hmem "m").mpr (by decide +kernel))
  obtain ⟨decl, hlast, rfl⟩ := (howner "tick" tick htick).2 (by decide)
  obtain rfl := (howner "m" m hm).1.mpr (by decide)
  have hn : decl.localName.id = "n" := by
    obtain rfl := Option.some.inj hlast
    rfl
  refine ⟨context, hcontext, hn ▸ htick, hm, fun h => ?_⟩
  exact absurd ((hmem "n").mp h) (by decide +kernel)

end BriskModules
