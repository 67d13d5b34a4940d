import BriskModules.Proofs.Export.Requirements
import BriskModules.Proofs.Export.Singletons

/-!
The order of declarations does not matter for what a unit exports.

The walk reads the context that it builds, but it reads only what no sighting changes: the
tags of singletons, and the imports of internals. So its sightings may come in any order. What
is known before the walk, and the table of the names of a unit, are read off the declarations
by name, where the last one counts; if no name is declared twice, their order does not matter
either.

* `CompilationUnit.Reordered`, `CompilationUnit.Distinct`: units with the same declarations in
  another order, and units in which no name is declared twice;
* `ExportContext.Reordered`: contexts that differ in the order of usages and errors only;
* `reordered_foldl_record`, `reordered_foldl_see`: usages and sightings in any order;
* `Reordered.ofUnit_eq`, `Reordered.exportSeed_eq`: the table of names, and the start of the
  walk;
* `inferExports_reordered` (**the order of declarations does not matter**).
-/

namespace BriskModules

attribute [ext] SymbolTable

/-! ### Units and contexts in another order -/

namespace CompilationUnit

/-- A unit with the same members, imports and exposed names in another order. -/
structure Reordered (unit other : CompilationUnit) : Prop where
  members : unit.members.Perm other.members
  imports : unit.imports.Perm other.imports
  spec : Option.Rel (fun spec spec' => spec.isInternal = spec'.isInternal ∧
    spec.exposes.Perm spec'.exposes) unit.spec other.spec

/-- No name is declared by two members, is the local name of two imports, or is exposed by
imports twice. -/
structure Distinct (unit : CompilationUnit) : Prop where
  members : (unit.members.map (·.name.id)).Nodup
  localNames : (unit.imports.map (·.localName.id)).Nodup
  exposing : (unit.imports.flatMap fun decl => decl.exposing.map (·.id)).Nodup

end CompilationUnit

/-- The same tag, and the same usages in another order. -/
structure SingletonSignature.Reordered (signature other : SingletonSignature) : Prop where
  tag : signature.tag = other.tag
  usages : signature.usages.Perm other.usages

/-- Contexts that differ in the order of usages and errors only. -/
structure ExportContext.Reordered (context other : ExportContext) : Prop where
  exportScope : context.exportScope = other.exportScope
  requiredImports : context.requiredImports = other.requiredImports
  abstractTypes : context.abstractTypes = other.abstractTypes
  internalImports : context.internalImports = other.internalImports
  singletons : ∀ name : String, Option.Rel SingletonSignature.Reordered
    context.singletons[name]? other.singletons[name]?
  errors : context.errors.Perm other.errors

/-! ### Usages in any order -/

namespace SingletonSignature

variable {signature other : SingletonSignature}

lemma Reordered.refl (signature : SingletonSignature) : signature.Reordered signature :=
  ⟨rfl, .refl _⟩

lemma Reordered.trans {last : SingletonSignature} (h : signature.Reordered other)
    (h' : other.Reordered last) : signature.Reordered last :=
  ⟨h.tag.trans h'.tag, h.usages.trans h'.usages⟩

lemma Reordered.record (h : signature.Reordered other) (captures : List String) :
    (signature.record captures).Reordered (other.record captures) := by
  by_cases hmem : captures ∈ signature.usages
  · have hmem' := h.usages.mem_iff.mp hmem
    simpa only [SingletonSignature.record, hmem, hmem', ↓reduceIte] using h
  · have hmem' : captures ∉ other.usages := fun hother => hmem (h.usages.mem_iff.mpr hother)
    simp only [SingletonSignature.record, hmem, hmem', ↓reduceIte]
    exact ⟨h.tag, h.usages.append_right [captures]⟩

lemma Reordered.foldl_record (h : signature.Reordered other) (usages : List (List String)) :
    (usages.foldl SingletonSignature.record signature).Reordered
      (usages.foldl SingletonSignature.record other) := by
  induction usages generalizing signature other with
  | nil => exact h
  | cons captures more ih => exact ih (h.record captures)

/-- Two usages are recorded in either order. -/
lemma reordered_record_record (signature : SingletonSignature) (captures other : List String) :
    ((signature.record captures).record other).Reordered
      ((signature.record other).record captures) := by
  by_cases heq : captures = other
  · rw [heq]
    exact .refl _
  · have hne := Ne.symm heq
    by_cases hfirst : captures ∈ signature.usages
    · by_cases hsecond : other ∈ signature.usages
      · simpa [record, hfirst, hsecond] using Reordered.refl signature
      · simpa [record, hfirst, hsecond] using Reordered.refl _
    · by_cases hsecond : other ∈ signature.usages
      · simpa [record, hfirst, hsecond] using Reordered.refl _
      · have hswap : [captures, other].Perm [other, captures] := .swap other captures []
        simp only [record, hfirst, hsecond, heq, hne, ↓reduceIte, List.mem_append,
          List.mem_singleton, or_self, List.append_assoc, List.singleton_append]
        exact ⟨rfl, hswap.append_left signature.usages⟩

/-- Usages may be recorded in any order. -/
lemma reordered_foldl_record {usages usages' : List (List String)} (h : usages.Perm usages')
    (signature : SingletonSignature) :
    (usages.foldl SingletonSignature.record signature).Reordered
      (usages'.foldl SingletonSignature.record signature) := by
  induction h generalizing signature with
  | nil => exact .refl signature
  | cons captures h ih => exact ih (signature.record captures)
  | swap captures other more =>
      exact (reordered_record_record signature other captures).foldl_record more
  | trans h h' ih ih' => exact (ih signature).trans (ih' signature)

end SingletonSignature

/-! ### Sightings in any order -/

namespace Surroundings

variable (known : Surroundings)

/-- The errors that a sighting reports, told from the imports of internals in a context. -/
def errorsOf (context : ExportContext) (sighting : Sighting) : List ExportError :=
  match sighting.mention with
  | .name kind first rest loc sized =>
    known.reported kind (sighting.visibility.within sized) sighting.exposing first rest loc context
  | .call .. => []

lemma errors_see (context : ExportContext) (sighting : Sighting) :
    (known.see context sighting).errors = context.errors ++ known.errorsOf context sighting := by
  obtain ⟨exposing, visibility, mention⟩ := sighting
  cases mention with
  | name kind first rest loc sized =>
      rw [see, follow, reference_eq]
      rfl
  | call callee captures =>
      rw [see, follow, errors_singletonCall, errorsOf, List.append_nil]

/-- Which errors a sighting reports hangs on the imports of internals alone, which no other
sighting changes. -/
lemma errorsOf_see (context : ExportContext) (first : Sighting) :
    known.errorsOf (known.see context first) = known.errorsOf context := by
  funext sighting
  rw [errorsOf, errorsOf]
  cases sighting.mention with
  | name kind first rest loc sized =>
      exact known.reported_congr (known.internalImports_see context _) _ _ _ _ _ _
  | call callee captures => rfl

lemma errors_foldl_see (sightings : List Sighting) (context : ExportContext) :
    (sightings.foldl known.see context).errors =
      context.errors ++ sightings.flatMap (known.errorsOf context) := by
  induction sightings generalizing context with
  | nil => simp
  | cons sighting more ih =>
      rw [List.foldl_cons, ih, errors_see, errorsOf_see, List.flatMap_cons, List.append_assoc]

lemma internalImports_foldl_see (sightings : List Sighting) (context : ExportContext) :
    (sightings.foldl known.see context).internalImports = context.internalImports := by
  induction sightings generalizing context with
  | nil => rfl
  | cons sighting more ih => rw [List.foldl_cons, ih, internalImports_see]

/-- Of a singleton that the facts do not know no usage is recorded. -/
lemma singletons_foldl_see_of_notMem {name : String} (hunknown : name ∉ known.facts.singletons)
    (sightings : List Sighting) (context : ExportContext) :
    (sightings.foldl known.see context).singletons[name]? = context.singletons[name]? := by
  induction sightings generalizing context with
  | nil => rfl
  | cons sighting more ih =>
      rw [List.foldl_cons, ih]
      obtain ⟨exposing, visibility, mention⟩ := sighting
      cases mention with
      | name kind first rest loc sized => rw [see, follow, reference_eq]
      | call callee captures =>
          rw [see, follow, singletonCall_eq]
          split_ifs with hsingleton
          · have hne : Text.joined "." callee ≠ name := by
              rintro rfl
              exact hunknown (Std.ExtTreeSet.contains_iff_mem.mp hsingleton)
            simp [Std.ExtTreeMap.getElem?_modify, hne]
          · rfl

/-- **Sightings may come in any order**: the contexts after them differ in the order of usages
and errors only. -/
lemma reordered_foldl_see {sightings sightings' : List Sighting} (h : sightings.Perm sightings')
    (context : ExportContext) :
    (sightings.foldl known.see context).Reordered (sightings'.foldl known.see context) where
  exportScope := by
    refine Std.ExtTreeSet.ext_mem fun name => ?_
    have hoccurrences := h.filterMap Sighting.occurrence?
    simp only [mem_exportScope_foldl_see, hoccurrences.mem_iff]
  requiredImports := by
    refine Std.ExtTreeMap.ext_getElem? fun name => ?_
    simp only [requiredImports_foldl_see, h.mem_iff]
  abstractTypes := by rw [abstractTypes_foldl_see, abstractTypes_foldl_see]
  internalImports := by rw [internalImports_foldl_see, internalImports_foldl_see]
  singletons name := by
    by_cases hknown : name ∈ known.facts.singletons
    · have husages := (h.filterMap Sighting.site?).filterMap (CallSite.usage? name)
      rw [known.singletons_foldl_see hknown, known.singletons_foldl_see hknown]
      cases context.singletons[name]? with
      | none => exact .none
      | some signature => exact .some (SingletonSignature.reordered_foldl_record husages signature)
    · rw [known.singletons_foldl_see_of_notMem hknown, known.singletons_foldl_see_of_notMem hknown]
      cases context.singletons[name]? with
      | none => exact .none
      | some signature => exact .some (.refl signature)
  errors := by
    rw [errors_foldl_see, errors_foldl_see]
    exact (h.flatMap_right _).append_left context.errors

end Surroundings

/-! ### Names that are declared once -/

/-- Of elements of which one at most is kept, the same are kept in any order. -/
lemma filter_eq_of_perm {α : Type} {p : α → Bool} {elements elements' : List α}
    (h : elements.Perm elements')
    (hone : elements.Pairwise fun first second => ¬(p first = true ∧ p second = true)) :
    elements.filter p = elements'.filter p := by
  have hkept := h.filter p
  have hpairs := hone.filter p
  cases hfilter : elements.filter p with
  | nil =>
      rw [hfilter] at hkept
      exact (List.nil_perm.mp hkept).symm
  | cons first more =>
      rw [hfilter] at hkept hpairs
      cases more with
      | nil => exact List.singleton_perm.mp hkept
      | cons second rest =>
          have hp : ∀ element ∈ first :: second :: rest, p element = true := by
            rw [← hfilter]
            exact fun element helement => (List.mem_filter.mp helement).2
          have hnot := (List.pairwise_cons.mp hpairs).1 second (by simp)
          exact absurd ⟨hp first (by simp), hp second (by simp)⟩ hnot

/-- If no key comes twice, the elements with a key are the same in any order. -/
lemma filter_key_eq_of_perm {α : Type} {key : α → String} {elements elements' : List α}
    (h : elements.Perm elements') (hkeys : (elements.map key).Nodup) (name : String) :
    elements.filter (key · = name) = elements'.filter (key · = name) := by
  refine filter_eq_of_perm h ((List.pairwise_map.mp hkeys).imp ?_)
  rintro first second hne ⟨hfirst, hsecond⟩
  exact hne ((of_decide_eq_true hfirst).trans (of_decide_eq_true hsecond).symm)

lemma NameSet.ofNames_eq_of_perm {names names' : List String} (h : names.Perm names') :
    NameSet.ofNames names = NameSet.ofNames names' :=
  Std.ExtTreeSet.ext_mem fun name => by rw [NameSet.mem_ofNames, NameSet.mem_ofNames, h.mem_iff]

namespace CompilationUnit

namespace Reordered

variable {unit other : CompilationUnit} (h : unit.Reordered other)

include h

lemma isInternal_eq : unit.isInternal = other.isInternal := by
  have hspec := h.spec
  rw [isInternal, isInternal]
  generalize unit.spec = spec at hspec ⊢
  generalize other.spec = spec' at hspec ⊢
  cases hspec with
  | some hspec => exact hspec.1
  | none => rfl

lemma exposes_perm : unit.exposes.Perm other.exposes := by
  have hspec := h.spec
  rw [exposes, exposes]
  generalize unit.spec = spec at hspec ⊢
  generalize other.spec = spec' at hspec ⊢
  cases hspec with
  | some hspec => simpa using hspec.2.map (·.id)
  | none => rfl

lemma declares_iff (name : String) : unit.Declares name ↔ other.Declares name :=
  (h.members.map _).mem_iff

lemma isSingleton_iff (name : String) : unit.IsSingleton name ↔ other.IsSingleton name := by
  simp only [IsSingleton, h.members.mem_iff]

/-- Members are seen one after the other, so the same is seen in another order. -/
lemma sightings_perm : unit.sightings.Perm other.sightings := by
  rw [sightings, sightings]
  simp only [h.exposes_perm.mem_iff]
  exact h.members.flatMap_right _

variable (hdistinct : unit.Distinct)

include hdistinct

lemma typeKind?_eq (name : String) : unit.typeKind? name = other.typeKind? name := by
  rw [typeKind?, typeKind?, filter_key_eq_of_perm h.members hdistinct.members name]

lemma internalKind?_eq (current : ModulePath) (internal : ModuleSet) (owner : String) :
    unit.internalKind? current internal owner = other.internalKind? current internal owner := by
  rw [internalKind?, internalKind?, filter_key_eq_of_perm h.imports hdistinct.localNames owner]

/-- A name is exposed by one import at most. -/
lemma exposers_eq (name : String) : unit.exposers name = other.exposers name := by
  refine filter_eq_of_perm h.imports ?_
  refine (List.nodup_flatMap.mp hdistinct.exposing).2.imp ?_
  rintro first second hdisjoint ⟨hfirst, hsecond⟩
  exact hdisjoint (of_decide_eq_true hfirst) (of_decide_eq_true hsecond)

/-- The table of the names is the same. -/
lemma ofUnit_eq : SymbolTable.ofUnit unit = SymbolTable.ofUnit other := by
  have hmembers : (SymbolTable.ofUnit unit).members = (SymbolTable.ofUnit other).members :=
    Std.ExtTreeMap.ext_getElem? fun name => by
      rw [SymbolTable.getElem?_members_ofUnit, SymbolTable.getElem?_members_ofUnit,
        h.exposers_eq hdistinct]
  exact SymbolTable.ext (NameSet.ofNames_eq_of_perm (h.members.map _))
    (NameSet.ofNames_eq_of_perm h.exposes_perm) (NameSet.ofNames_eq_of_perm (h.imports.map _))
    hmembers

/-- The context before the walk is the same. -/
lemma exportSeed_eq (current : ModulePath) (internal : ModuleSet) :
    exportSeed unit current (.ofUnit unit) internal =
      exportSeed other current (.ofUnit other) internal := by
  obtain ⟨herrors, hkinds⟩ := errors_exportSeed current internal unit (.ofUnit unit)
  obtain ⟨herrors', hkinds'⟩ := errors_exportSeed current internal other (.ofUnit other)
  refine ExportContext.ext ?_ ?_ ?_ ?_ ?_ (herrors.trans herrors'.symm)
  · refine Std.ExtTreeSet.ext_mem fun name => ?_
    rw [mem_exportScope_exportSeed, mem_exportScope_exportSeed, h.declares_iff,
      h.exposes_perm.mem_iff]
  · rw [requiredImports_exportSeed, requiredImports_exportSeed]
  · refine Std.ExtTreeMap.ext_getElem? fun name => ?_
    rw [singletons_exportSeed, singletons_exportSeed, h.ofUnit_eq hdistinct]
    simp only [h.isSingleton_iff]
  · refine Std.ExtTreeMap.ext_getElem? fun name => ?_
    rw [abstractTypes_exportSeed, abstractTypes_exportSeed, h.typeKind?_eq hdistinct]
    simp only [h.exposes_perm.mem_iff]
  · refine Std.ExtTreeMap.ext_getElem? fun owner => ?_
    rw [hkinds, hkinds', h.internalKind?_eq hdistinct]

/-- After the walk, the contexts differ in the order of usages and errors only. -/
lemma collected (current : ModulePath) (facts : Facts) (internal : ModuleSet) :
    (collectExports unit current (.ofUnit unit) facts internal).Reordered
      (collectExports other current (.ofUnit other) facts internal) := by
  rw [collectExports_eq_foldl, collectExports_eq_foldl, h.exportSeed_eq hdistinct,
    h.ofUnit_eq hdistinct, h.isInternal_eq]
  exact Surroundings.reordered_foldl_see _ h.sightings_perm _

end Reordered

end CompilationUnit

/-! ### What is finished -/

namespace ExportContext

variable {context context' finished finished' : ExportContext}

lemma exists_finish_eq_ok_iff :
    (∃ finished, context.finish = .ok finished) ↔ context.errors = [] := by
  rw [finish]
  split_ifs with h
  · simp [h]
  · simp [h]

/-- Finishing forgets singletons and types only, and nothing is finished that has errors. -/
lemma internalImports_of_finish (h : context.finish = .ok finished) :
    finished.internalImports = context.internalImports ∧ finished.errors = [] := by
  rw [finish] at h
  split_ifs at h with hnil
  rw [← Except.ok.inj h]
  exact ⟨rfl, hnil⟩

lemma errors_of_finish {errors : List ExportError} (h : context.finish = .error errors) :
    errors = context.errors := by
  rw [finish] at h
  split_ifs at h
  exact (Except.error.inj h).symm

/-- What is finished differs as what is collected does. -/
lemma Reordered.of_finish (h : context.Reordered context') (hok : context.finish = .ok finished)
    (hok' : context'.finish = .ok finished') : finished.Reordered finished' where
  exportScope := by rw [exportScope_of_finish hok, exportScope_of_finish hok', h.exportScope]
  requiredImports := by
    rw [requiredImports_of_finish hok, requiredImports_of_finish hok', h.requiredImports]
  abstractTypes := by
    refine Std.ExtTreeMap.ext_getElem? fun name => ?_
    rw [abstractTypes_of_finish hok, abstractTypes_of_finish hok', h.abstractTypes, h.exportScope]
  internalImports := by
    rw [(internalImports_of_finish hok).1, (internalImports_of_finish hok').1, h.internalImports]
  singletons name := by
    rw [singletons_of_finish hok, singletons_of_finish hok', h.exportScope]
    split_ifs
    · exact h.singletons name
    · exact .none
  errors := by rw [(internalImports_of_finish hok).2, (internalImports_of_finish hok').2]

end ExportContext

/-- **The order of declarations does not matter**: if no name is declared twice in a unit, and
another unit has its members, its imports and its exposed names in any other order, then either
both have exports or both have errors. The exports differ in the order of usages only, and the
errors in their order. -/
theorem inferExports_reordered {unit other : CompilationUnit} (hdistinct : unit.Distinct)
    (h : unit.Reordered other) (current : ModulePath) (facts : Facts) (internal : ModuleSet) :
    ((∃ context, inferExports unit current (.ofUnit unit) facts internal = .ok context) ↔
      ∃ context, inferExports other current (.ofUnit other) facts internal = .ok context) ∧
    (∀ context context', inferExports unit current (.ofUnit unit) facts internal = .ok context →
      inferExports other current (.ofUnit other) facts internal = .ok context' →
        context.Reordered context') ∧
    ∀ errors errors', inferExports unit current (.ofUnit unit) facts internal = .error errors →
      inferExports other current (.ofUnit other) facts internal = .error errors' →
        errors.Perm errors' := by
  have hcollected := h.collected hdistinct current facts internal
  refine ⟨?_, fun context context' hok hok' => hcollected.of_finish hok hok',
    fun errors errors' herror herror' => ?_⟩
  · have hnil := hcollected.errors
    rw [inferExports, inferExports, ExportContext.exists_finish_eq_ok_iff,
      ExportContext.exists_finish_eq_ok_iff]
    constructor
    · intro heq
      rwa [heq, List.nil_perm] at hnil
    · intro heq
      rwa [heq, List.perm_nil] at hnil
  · rw [ExportContext.errors_of_finish herror, ExportContext.errors_of_finish herror']
    exact hcollected.errors

/-- A module that calls an exposed singleton with two captures from two imports. -/
def twoCalls : CompilationUnit where
  imports := [
    { localName := ⟨"m", {}⟩, path := "m", exposing := [⟨"ms", {}⟩] },
    { localName := ⟨"n", {}⟩, path := "n", exposing := [⟨"ns", {}⟩] }]
  spec := some { exposes := [⟨"tick", {}⟩, ⟨"slow", {}⟩] }
  members := [
    .prototype { name := ⟨"tick", {}⟩, kind := .activity, singleton := true },
    .var
      { name := ⟨"slow", {}⟩, permission := .const,
        init := some (.call ((Call.ofDotted "tick").withCaptures ["ms"])) },
    .var
      { name := ⟨"fast", {}⟩, permission := .const,
        init := some (.call ((Call.ofDotted "tick").withCaptures ["ns"])) }]

/-- The same module, written backwards. -/
def twoCallsBackwards : CompilationUnit where
  imports := twoCalls.imports.reverse
  spec := some { exposes := [⟨"slow", {}⟩, ⟨"tick", {}⟩] }
  members := twoCalls.members.reverse

/-- Both have exports, and the usages of the singleton come in another order. -/
theorem inferExports_reordered_twoCalls :
    ∃ context context', twoCalls.Distinct ∧ twoCalls.Reordered twoCallsBackwards ∧
      inferExports twoCalls ⟨none, [], "a"⟩ (.ofUnit twoCalls) (.ofUnit twoCalls) ∅ =
        .ok context ∧
      inferExports twoCallsBackwards ⟨none, [], "a"⟩ (.ofUnit twoCallsBackwards)
        (.ofUnit twoCalls) ∅ = .ok context' ∧
      context.Reordered context' ∧
      context.singletons["tick"]? = some ⟨.translucent, [["ms"], ["ns"]]⟩ ∧
      context'.singletons["tick"]? = some ⟨.translucent, [["ns"], ["ms"]]⟩ := by
  have hdistinct : twoCalls.Distinct := ⟨by decide, by decide, by decide⟩
  have hreordered : twoCalls.Reordered twoCallsBackwards :=
    ⟨(List.reverse_perm _).symm, (List.reverse_perm _).symm, .some ⟨rfl, by decide⟩⟩
  obtain ⟨hiff, hok, -⟩ := inferExports_reordered hdistinct hreordered ⟨none, [], "a"⟩
    (.ofUnit twoCalls) ∅
  obtain ⟨context, hcontext⟩ : ∃ context, inferExports twoCalls ⟨none, [], "a"⟩
      (.ofUnit twoCalls) (.ofUnit twoCalls) ∅ = .ok context :=
    exists_inferExports_eq_ok (by decide +kernel)
  obtain ⟨context', hcontext'⟩ := hiff.mp ⟨context, hcontext⟩
  have hsingleton : (inferExports twoCalls ⟨none, [], "a"⟩ (.ofUnit twoCalls)
      (.ofUnit twoCalls) ∅).toOption.bind (·.singletons["tick"]?) =
        some ⟨.translucent, [["ms"], ["ns"]]⟩ := by decide +kernel
  have hsingleton' : (inferExports twoCallsBackwards ⟨none, [], "a"⟩ (.ofUnit twoCallsBackwards)
      (.ofUnit twoCalls) ∅).toOption.bind (·.singletons["tick"]?) =
        some ⟨.translucent, [["ns"], ["ms"]]⟩ := by decide +kernel
  rw [hcontext] at hsingleton
  rw [hcontext'] at hsingleton'
  exact ⟨context, context', hdistinct, hreordered, hcontext, hcontext',
    hok context context' hcontext hcontext', hsingleton, hsingleton'⟩

end BriskModules
