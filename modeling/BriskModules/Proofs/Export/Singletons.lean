import BriskModules.Proofs.Export.Calls
import BriskModules.Proofs.Export.Scope
import BriskModules.Proofs.Import.Facts

/-!
The singletons that a unit exports, with their tags and usages.

Every singleton of the unit is noted before the walk, with a tag that no step of the walk
changes. The walk records the captures of each call of a singleton that it knows, each list of
captures once, wherever the call stands and whatever is revealed there. Since a unit knows its
own singletons, the usages of a singleton are the distinct lists of captures of all its calls,
in the order in which they first come.

* `CompilationUnit.usages`: the distinct captures with which a name is called;
* `Facts.Covers`: facts that know the singletons of a unit, as all that are collected do;
* `foldl_record`: recording lists of captures one by one keeps the distinct ones in order;
* `singletons_see`, `singletons_foldl_see`: what one sighting and all sightings record;
* `inferExports_singletons`: the singletons that a unit exports.
-/

namespace BriskModules

/-! ### Usages -/

/-- The captures as text. -/
def Call.usage (call : Call) : List String := call.captures.map StaticPath.dotted

/-- The distinct captures with which a name is called in a unit, in the order in which they
first come. -/
def CompilationUnit.usages (unit : CompilationUnit) (name : String) : List (List String) :=
  ((unit.calls.filter (·.key = name)).map Call.usage).eraseDups

/-- A list of captures is recorded unless it is known, so that the distinct ones are kept in
the order in which they first come. -/
lemma foldl_record (usages : List (List String)) (tag : SingletonTag) :
    usages.foldl SingletonSignature.record ⟨tag, []⟩ = ⟨tag, usages.eraseDups⟩ := by
  induction usages using List.reverseRecOn with
  | nil => rfl
  | append_singleton front captures ih =>
      rw [List.foldl_append, List.foldl_cons, List.foldl_nil, ih, SingletonSignature.record,
        List.eraseDups_append]
      have hone : [captures].eraseDups = [captures] := rfl
      by_cases hmem : captures ∈ front
      · simp [hmem, List.removeAll]
      · simp [hmem, List.removeAll, hone]

/-! ### Facts that know the singletons of a unit -/

/-- Facts know all singletons that a unit declares. -/
def Facts.Covers (facts : Facts) (unit : CompilationUnit) : Prop :=
  ∀ name, unit.IsSingleton name → name ∈ facts.singletons

/-- A unit knows its own singletons. -/
lemma Facts.covers_ofUnit (unit : CompilationUnit) : (Facts.ofUnit unit).Covers unit := by
  rintro name ⟨member, hmember, rfl, hsingleton⟩
  rw [ofUnit, NameSet.mem_ofNames, localSingletons]
  exact List.mem_map.mpr ⟨member, List.mem_filter.mpr ⟨hmember, hsingleton⟩, rfl⟩

/-- It still does when its imports have added theirs. -/
lemma Facts.covers_collect {α : Type} (unit : CompilationUnit) (imports : Imports α) :
    (Facts.collect unit imports).Covers unit := fun name hsingleton =>
  (mem_singletons_collect imports unit name).mpr (.inl (covers_ofUnit unit name hsingleton))

/-! ### What the walk records -/

/-- The captures with which a name is called at a call, if it is. -/
def CallSite.usage? (name : String) (site : CallSite) : Option (List String) :=
  if Text.joined "." site.1 = name then some (site.2.map (Text.joined ".")) else none

/-- The captures with which a unit calls a name, as a walk sees them. -/
lemma CompilationUnit.filterMap_usage?_sightings (unit : CompilationUnit) (name : String) :
    (unit.sightings.filterMap Sighting.site?).filterMap (CallSite.usage? name) =
      (unit.calls.filter (·.key = name)).map Call.usage := by
  rw [filterMap_site?_sightings, List.filterMap_map]
  induction unit.calls with
  | nil => rfl
  | cons call more ih =>
      by_cases hkey : call.key = name
      · have hmap : call.site.2.map (Text.joined ".") = call.usage := List.map_map
        have husage : (CallSite.usage? name ∘ Call.site) call = some call.usage := by
          rw [Function.comp_apply, CallSite.usage?, ← hmap]
          exact if_pos hkey
        rw [List.filterMap_cons_some husage, ih, List.filter_cons_of_pos (by simpa using hkey),
          List.map_cons]
      · have husage : (CallSite.usage? name ∘ Call.site) call = none := if_neg hkey
        rw [List.filterMap_cons_none husage, ih, List.filter_cons_of_neg (by simpa using hkey)]

namespace Surroundings

variable (known : Surroundings)

/-- What a sighting records of a singleton that is known: the captures, if it is called. -/
lemma singletons_see {name : String} (hknown : name ∈ known.facts.singletons)
    (context : ExportContext) (sighting : Sighting) :
    (known.see context sighting).singletons[name]? =
      context.singletons[name]?.map fun signature =>
        (sighting.site?.bind (CallSite.usage? name)).toList.foldl SingletonSignature.record
          signature := by
  obtain ⟨exposing, visibility, mention⟩ := sighting
  cases mention with
  | name kind first rest loc sized =>
      rw [see, follow, reference_eq]
      exact Option.map_id'.symm
  | call callee captures =>
      have hsite : (Sighting.mk exposing visibility (.call callee captures)).site? =
          some (callee, captures) := rfl
      rw [see, follow, singletonCall_eq, hsite, Option.bind_some, CallSite.usage?]
      by_cases hname : Text.joined "." callee = name
      · have hsingleton : known.IsSingleton callee := by
          rw [IsSingleton, hname]
          exact Std.ExtTreeSet.contains_iff_mem.mpr hknown
        simp [hsingleton, hname]
      · split_ifs with hsingleton
        · simp [hname, Std.ExtTreeMap.getElem?_modify]
        · simp

/-- What all sightings record of a singleton that is known: the captures of its calls. -/
lemma singletons_foldl_see {name : String} (hknown : name ∈ known.facts.singletons)
    (sightings : List Sighting) (context : ExportContext) :
    (sightings.foldl known.see context).singletons[name]? =
      context.singletons[name]?.map fun signature =>
        ((sightings.filterMap Sighting.site?).filterMap (CallSite.usage? name)).foldl
          SingletonSignature.record signature := by
  rw [List.filterMap_filterMap]
  induction sightings generalizing context with
  | nil => exact Option.map_id'.symm
  | cons sighting more ih =>
      rw [List.foldl_cons, ih, known.singletons_see hknown, Option.map_map, List.filterMap_cons]
      cases sighting.site?.bind (CallSite.usage? name) with
      | none => rfl
      | some captures => rfl

end Surroundings

/-! ### The singletons of a unit -/

/-- A singleton has the tag of what is exported with its usages iff it is exposed. -/
lemma tagOf_ofUnit (unit : CompilationUnit) (name : String) :
    tagOf (.ofUnit unit) name = .translucent ↔ name ∈ unit.exposes := by
  rw [tagOf, SymbolTable.isExposed_ofUnit]
  by_cases hexposed : name ∈ unit.exposes <;> simp [hexposed]

/-- What is known after the walk of the singletons of a unit. -/
lemma singletons_collectExports (unit : CompilationUnit) (current : ModulePath)
    (internal : ModuleSet) {facts : Facts} (hfacts : facts.Covers unit) (name : String) :
    (collectExports unit current (.ofUnit unit) facts internal).singletons[name]? =
      if unit.IsSingleton name then some ⟨tagOf (.ofUnit unit) name, unit.usages name⟩
      else none := by
  rw [collectExports_eq_foldl]
  by_cases hsingleton : unit.IsSingleton name
  · rw [Surroundings.singletons_foldl_see _ (hfacts name hsingleton), singletons_exportSeed,
      if_pos hsingleton, if_pos hsingleton, Option.map_some, unit.filterMap_usage?_sightings,
      foldl_record, CompilationUnit.usages]
  · -- a walk learns of no singleton
    have htag : (unit.sightings.foldl (Surroundings.see ⟨.ofUnit unit, facts, unit.isInternal⟩)
        (exportSeed unit current (.ofUnit unit) internal)).tag? name = none := by
      rw [Surroundings.tag?_foldl_see, ExportContext.tag?, singletons_exportSeed,
        if_neg hsingleton, Option.map_none]
    rw [if_neg hsingleton]
    exact Option.map_eq_none_iff.mp htag

section

variable {unit : CompilationUnit} {current : ModulePath} {facts : Facts} {internal : ModuleSet}
  {context : ExportContext} (hfacts : facts.Covers unit)
  (h : inferExports unit current (.ofUnit unit) facts internal = .ok context)

include hfacts h

/-- What is exported of the singletons of a unit. -/
lemma singletons_of_inferExports (name : String) :
    context.singletons[name]? =
      if name ∈ context.exportScope ∧ unit.IsSingleton name then
        some ⟨tagOf (.ofUnit unit) name, unit.usages name⟩ else none := by
  rw [ExportContext.singletons_of_finish h, singletons_collectExports unit current internal hfacts,
    ExportContext.exportScope_of_finish h, ite_and]

/-- The singletons that are exported are those in the export scope. -/
lemma mem_singletons_iff (name : String) :
    name ∈ context.singletons ↔ unit.IsSingleton name ∧ name ∈ context.exportScope := by
  rw [← Std.ExtTreeMap.isSome_getElem?_iff_mem, singletons_of_inferExports hfacts h,
    @and_comm (unit.IsSingleton name)]
  split_ifs with hshown
  · simp [hshown]
  · simp [hshown]

end

/-- **The singletons that a unit exports are exact**: with facts that know the singletons of
the unit, as those that are collected do, they are the singletons in the export scope, those
that are exposed have the tag of what is exported with its usages, and the usages of each are
the distinct captures of all calls of it, in the order in which they first come. -/
theorem inferExports_singletons {α : Type} (unit : CompilationUnit) (current : ModulePath)
    (internal : ModuleSet) :
    (Facts.ofUnit unit).Covers unit ∧
    (∀ imports : Imports α, (Facts.collect unit imports).Covers unit) ∧
    ∀ facts context, facts.Covers unit →
      inferExports unit current (.ofUnit unit) facts internal = .ok context →
        (∀ name, name ∈ context.singletons ↔
          unit.IsSingleton name ∧ name ∈ context.exportScope) ∧
        ∀ name signature, context.singletons[name]? = some signature →
          (signature.tag = .translucent ↔ name ∈ unit.exposes) ∧
            signature.usages = unit.usages name := by
  refine ⟨Facts.covers_ofUnit unit, Facts.covers_collect unit, fun facts context hfacts h =>
    ⟨mem_singletons_iff hfacts h, fun name signature hsignature => ?_⟩⟩
  rw [singletons_of_inferExports hfacts h] at hsignature
  split_ifs at hsignature
  obtain rfl := Option.some.inj hsignature
  exact ⟨tagOf_ofUnit unit name, rfl⟩

/-- A module that exposes a singleton and calls it in a value that is not exposed, once in an
index of the callee, once with a capture, and once more with that capture in an input. -/
def nestedCalls : CompilationUnit where
  spec := some { exposes := [⟨"tick", {}⟩] }
  members := [
    .var
      { name := ⟨"secret", {}⟩, permission := .const,
        init := some (.call
          { callee := ⟨⟨"tick", {}⟩, [.index (.call (.ofDotted "tick"))]⟩,
            captures := [.ofDotted "clock.ms"],
            inputs := [.call ((Call.ofDotted "tick").withCaptures ["clock.ms"])] }) },
    .prototype { name := ⟨"tick", {}⟩, kind := .activity, singleton := true }]

/-- The call in the index comes first, and the capture that comes again is kept once. -/
theorem inferExports_singletons_nestedCalls :
    ∃ context, (Facts.ofUnit nestedCalls).Covers nestedCalls ∧
      inferExports nestedCalls ⟨none, [], "a"⟩ (.ofUnit nestedCalls) (.ofUnit nestedCalls) ∅ =
        .ok context ∧
      context.singletons["tick"]? = some ⟨.translucent, [[], ["clock.ms"]]⟩ := by
  obtain ⟨context, hcontext⟩ : ∃ context, inferExports nestedCalls ⟨none, [], "a"⟩
      (.ofUnit nestedCalls) (.ofUnit nestedCalls) ∅ = .ok context :=
    exists_inferExports_eq_ok (by decide +kernel)
  obtain ⟨hcovers, -, hexact⟩ :=
    @inferExports_singletons Unit nestedCalls ⟨none, [], "a"⟩ ∅
  obtain ⟨hknown, hsignature⟩ := hexact _ context hcovers hcontext
  have hscope : "tick" ∈ context.exportScope := by
    rw [ExportContext.exportScope_of_finish hcontext, mem_exportScope_collectExports]
    exact .inl (by decide)
  have hmem : "tick" ∈ context.singletons := (hknown "tick").mpr ⟨by decide, hscope⟩
  obtain ⟨⟨tag, usages⟩, hfound⟩ := Option.isSome_iff_exists.mp
    (Std.ExtTreeMap.isSome_getElem?_iff_mem.mpr hmem)
  obtain ⟨htag, husages⟩ := hsignature "tick" ⟨tag, usages⟩ hfound
  obtain rfl : tag = .translucent := htag.mpr (by decide)
  obtain rfl : usages = [[], ["clock.ms"]] := husages.trans (by decide +kernel)
  exact ⟨context, hcovers, hcontext, hfound⟩

end BriskModules
