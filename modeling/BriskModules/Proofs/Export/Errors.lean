import BriskModules.Proofs.Export.Mention

/-!
The errors of a unit are those of its occurrences.

An occurrence of a name that is revealed fully is illegal if the name is declared and not
exposed, or if it comes from an import of internals. Each illegal occurrence has its own
error, and the walk reports these errors, one for each such occurrence, in its order.

* `Occurrence`: a name that is referred to, with what its place reveals in effect;
* `CompilationUnit.internalKind?`: which local names stand for imports of internals;
* `Occurrence.Illegal`, `Occurrence.error?`: what is illegal, and the error for it;
* `errors_see`, `errors_foldl_see`: what one sighting and all sightings report;
* `inferExports_error_iff`: the errors of a unit.
-/

namespace BriskModules

/-! ### Occurrences -/

/-- An occurrence of a name: the first name of a path or an extension member, and how much
is revealed there in the end. -/
structure Occurrence where
  kind : ReferenceKind
  first : String
  /-- The fields right behind the first name of a path. -/
  rest : List String
  loc : Loc
  /-- The member in which the name occurs. -/
  exposing : String
  visibility : Visibility

/-- The occurrence that is seen, unless a call is. -/
def Sighting.occurrence? (sighting : Sighting) : Option Occurrence :=
  match sighting.mention with
  | .name kind first rest loc sized =>
    some ⟨kind, first, rest, loc, sighting.exposing, sighting.visibility.within sized⟩
  | .call .. => none

namespace CompilationUnit

/-- The occurrences of names in a unit, in the order of the walk. -/
def occurrences (unit : CompilationUnit) : List Occurrence :=
  unit.sightings.filterMap Sighting.occurrence?

/-- The kind of internals that a local name gives access to: of its imports that do so, the
last one counts. -/
def internalKind? (unit : CompilationUnit) (current : ModulePath) (internal : ModuleSet)
    (owner : String) : Option InternalKind :=
  ((unit.imports.filter (·.localName.id = owner)).filterMap
    (·.internalKind? current internal)).getLast?

end CompilationUnit

namespace Occurrence

variable (unit : CompilationUnit) (current : ModulePath) (internal : ModuleSet)
  (occurrence : Occurrence)

/-- The import of internals that an occurrence comes from, and the kind of internals. -/
def leak? : Option (String × InternalKind) :=
  if unit.isInternal then none
  else
    (unit.owner? occurrence.first).bind fun owner =>
      (unit.internalKind? current internal owner).map (owner, ·)

/-- The error for a name that is declared and not exposed. -/
def hiddenError : ExportError :=
  match occurrence.kind with
  | .explicit => .nameLessAccessible occurrence.first occurrence.exposing occurrence.loc
  | .implicit => .implicitNameLessAccessible occurrence.first occurrence.exposing occurrence.loc

/-- The error for a name from an import of internals. -/
def leakError (owner : String) (kind : InternalKind) : ExportError :=
  let name := (SymbolTable.ofUnit unit).declaringName (occurrence.first :: occurrence.rest)
  match kind with
  | .transitive => .internalModuleRequired name owner occurrence.exposing occurrence.loc
  | .whitebox => .importInternalRequired name owner occurrence.exposing occurrence.loc

/-- The error for an occurrence, if it is illegal. -/
def error? : Option ExportError :=
  if occurrence.visibility = .transparent then
    if unit.Hides occurrence.first then some occurrence.hiddenError
    else (occurrence.leak? unit current internal).map fun leak =>
      occurrence.leakError unit leak.1 leak.2
  else none

end Occurrence

/-! ### What changes errors and imports of internals -/

namespace Surroundings

variable (known : Surroundings) (context : ExportContext)

@[simp]
lemma errors_requireIfImported (name : String) :
    (known.requireIfImported name context).errors = context.errors := by
  rw [requireIfImported]
  split <;> rfl

@[simp]
lemma internalImports_requireIfImported (name : String) :
    (known.requireIfImported name context).internalImports = context.internalImports := by
  rw [requireIfImported]
  split <;> rfl

@[simp]
lemma errors_singletonCall (callee : List String) (captures : List (List String)) :
    (known.singletonCall callee captures context).errors = context.errors := by
  simp only [singletonCall]
  split_ifs
  · exact known.errors_requireIfImported context _
  · rfl

@[simp]
lemma internalImports_singletonCall (callee : List String) (captures : List (List String)) :
    (known.singletonCall callee captures context).internalImports = context.internalImports := by
  simp only [singletonCall]
  split_ifs
  · exact known.internalImports_requireIfImported context _
  · rfl

@[simp]
lemma internalImports_checkInternalLeak (exposing : String) (path : List String) (loc : Loc) :
    (known.checkInternalLeak exposing path loc context).internalImports =
      context.internalImports := by
  rw [checkInternalLeak]
  split <;> rfl

/-- No reference changes which imports give access to internals. -/
lemma internalImports_reference (kind : ReferenceKind) (visibility : Visibility)
    (exposing : String) (path : List String) (loc : Loc) :
    (known.reference kind visibility exposing path loc context).internalImports =
      context.internalImports := by
  cases path with
  | nil => rfl
  | cons first rest =>
      cases visibility with
      | invisible => rfl
      | semitransparent =>
          simp only [reference, internalImports_requireIfImported]
          split_ifs <;> rfl
      | transparent =>
          simp only [reference, internalImports_checkInternalLeak,
            internalImports_requireIfImported]
          split_ifs <;> rfl

/-- No sighting does. -/
lemma internalImports_see (sighting : Sighting) :
    (known.see context sighting).internalImports = context.internalImports := by
  obtain ⟨exposing, visibility, mention⟩ := sighting
  cases mention with
  | name => exact known.internalImports_reference context _ _ _ _ _
  | call => exact known.internalImports_singletonCall context _ _

end Surroundings

/-! ### What is reported -/

section Reports

variable {unit : CompilationUnit} {current : ModulePath} {internal : ModuleSet} {facts : Facts}
  {context : ExportContext}

/-- An occurrence from an import of internals is reported as such. -/
lemma internalLeak?_eq (occurrence : Occurrence)
    (hkinds : ∀ owner,
      context.internalImports[owner]? = unit.internalKind? current internal owner) :
    Surroundings.internalLeak? ⟨.ofUnit unit, facts, unit.isInternal⟩ occurrence.exposing
        (occurrence.first :: occurrence.rest) occurrence.loc context =
      (occurrence.leak? unit current internal).map fun leak =>
        occurrence.leakError unit leak.1 leak.2 := by
  rw [Surroundings.internalLeak?, Occurrence.leak?]
  cases unit.isInternal with
  | true => rfl
  | false =>
      simp only [Bool.false_eq_true, ↓reduceIte, List.head?_cons, Option.bind_eq_bind,
        Option.bind_some, SymbolTable.owner?_ofUnit, hkinds]
      cases unit.owner? occurrence.first with
      | none => rfl
      | some owner =>
          cases hkind : unit.internalKind? current internal owner with
          | none => simp [hkind]
          | some kind => cases kind <;> simp [hkind, Occurrence.leakError]

variable (current internal) in
/-- The check for leaks reports that an occurrence is from an import of internals, if it is. -/
lemma errors_checkInternalLeak (occurrence : Occurrence)
    (hkinds : ∀ owner,
      context.internalImports[owner]? = unit.internalKind? current internal owner) :
    (Surroundings.checkInternalLeak ⟨.ofUnit unit, facts, unit.isInternal⟩ occurrence.exposing
        (occurrence.first :: occurrence.rest) occurrence.loc context).errors =
      context.errors ++ ((occurrence.leak? unit current internal).map fun leak =>
        occurrence.leakError unit leak.1 leak.2).toList := by
  rw [Surroundings.checkInternalLeak, internalLeak?_eq occurrence hkinds]
  cases occurrence.leak? unit current internal with
  | none => simp
  | some leak => rfl

/-- A declared name comes from no import. -/
lemma Occurrence.leak?_of_declares {occurrence : Occurrence}
    (h : unit.Declares occurrence.first) : occurrence.leak? unit current internal = none := by
  simp [Occurrence.leak?, CompilationUnit.owner?, h]

lemma SymbolTable.declaringName_ofUnit {first : String} (h : unit.Declares first)
    (rest : List String) :
    (SymbolTable.ofUnit unit).declaringName (first :: rest) = first := by
  have htoplevel := SymbolTable.isToplevel_ofUnit unit first
  rw [SymbolTable.isToplevel, decide_eq_true h] at htoplevel
  simp [SymbolTable.declaringName, SymbolTable.importedAs?, htoplevel]

lemma lessAccessible_eq_hiddenError (occurrence : Occurrence) :
    Surroundings.lessAccessible occurrence.kind occurrence.first occurrence.exposing
      occurrence.loc = occurrence.hiddenError := by
  unfold Occurrence.hiddenError
  cases occurrence.kind <;> rfl

/-- A reference reports the error of its occurrence, if there is one. -/
lemma errors_reference (occurrence : Occurrence)
    (hkinds : ∀ owner,
      context.internalImports[owner]? = unit.internalKind? current internal owner) :
    (Surroundings.reference ⟨.ofUnit unit, facts, unit.isInternal⟩ occurrence.kind
        occurrence.visibility occurrence.exposing (occurrence.first :: occurrence.rest)
        occurrence.loc context).errors =
      context.errors ++ (occurrence.error? unit current internal).toList := by
  rw [Occurrence.error?]
  cases hvisibility : occurrence.visibility with
  | invisible => simp [Surroundings.reference]
  | semitransparent =>
      simp only [Surroundings.reference, Surroundings.errors_requireIfImported, reduceCtorEq,
        ↓reduceIte, Option.toList_none, List.append_nil]
      split_ifs <;> rfl
  | transparent =>
      simp only [Surroundings.reference, SymbolTable.isHidden_ofUnit, decide_eq_true_eq,
        ↓reduceIte]
      by_cases hhidden : unit.Hides occurrence.first
      · -- a declared name comes from no import, so there is no second error
        have hleak : occurrence.leak? unit current internal = none :=
          Occurrence.leak?_of_declares hhidden.1
        have hname := SymbolTable.declaringName_ofUnit hhidden.1 occurrence.rest
        rw [errors_checkInternalLeak current internal]
        · simp [hhidden, hleak, hname, lessAccessible_eq_hiddenError, ExportContext.report]
        · simpa [hhidden, ExportContext.report] using hkinds
      · rw [errors_checkInternalLeak current internal]
        · simp [hhidden]
        · simpa [hhidden] using hkinds

/-- A sighting reports the error of its occurrence, if it has one. -/
lemma errors_see (sighting : Sighting)
    (hkinds : ∀ owner,
      context.internalImports[owner]? = unit.internalKind? current internal owner) :
    (Surroundings.see ⟨.ofUnit unit, facts, unit.isInternal⟩ context sighting).errors =
      context.errors ++
        (sighting.occurrence?.bind (·.error? unit current internal)).toList := by
  obtain ⟨exposing, visibility, mention⟩ := sighting
  cases mention with
  | name kind first rest loc sized =>
      exact errors_reference ⟨kind, first, rest, loc, exposing, visibility.within sized⟩ hkinds
  | call callee captures =>
      rw [Surroundings.see, Surroundings.follow, Surroundings.errors_singletonCall]
      simp [Sighting.occurrence?]

/-- All sightings report the errors of their occurrences, in their order. -/
lemma errors_foldl_see (sightings : List Sighting)
    (hkinds : ∀ owner,
      context.internalImports[owner]? = unit.internalKind? current internal owner) :
    (sightings.foldl (Surroundings.see ⟨.ofUnit unit, facts, unit.isInternal⟩) context).errors =
      context.errors ++ (sightings.filterMap Sighting.occurrence?).filterMap
        (·.error? unit current internal) := by
  induction sightings generalizing context with
  | nil => simp
  | cons sighting more ih =>
      rw [List.foldl_cons, ih fun owner => by rw [Surroundings.internalImports_see, hkinds],
        errors_see sighting hkinds, List.filterMap_filterMap, List.filterMap_filterMap,
        List.filterMap_cons, List.append_assoc]
      cases sighting.occurrence?.bind (·.error? unit current internal) with
      | none => rfl
      | some error => rfl

end Reports

/-! ### The start of the walk -/

section Seed

variable (current : ModulePath) (internal : ModuleSet)

/-- Of the imports with a local name that give access to internals the last one counts. -/
lemma internalImports_classifyImports (imports : List Import) (context : ExportContext) :
    (classifyImports current internal imports context).errors = context.errors ∧
      ∀ owner, (classifyImports current internal imports context).internalImports[owner]? =
        (((imports.filter (·.localName.id = owner)).filterMap
          (·.internalKind? current internal)).getLast?).or context.internalImports[owner]? := by
  induction imports using List.reverseRecOn with
  | nil => simp [classifyImports]
  | append_singleton front decl ih =>
      obtain ⟨herrors, hkinds⟩ := ih
      cases hkind : decl.internalKind? current internal with
      | none =>
          have hstep : classifyImports current internal (front ++ [decl]) context =
              classifyImports current internal front context := by
            simp only [classifyImports, List.foldl_append, List.foldl_cons, List.foldl_nil, hkind]
          rw [hstep]
          refine ⟨herrors, fun owner => ?_⟩
          rw [hkinds, List.filter_append, List.filterMap_append]
          by_cases howner : decl.localName.id = owner
          · simp [howner, hkind]
          · simp [howner]
      | some kind =>
          have hstep : classifyImports current internal (front ++ [decl]) context =
              (classifyImports current internal front context).classifyImport
                decl.localName.id kind := by
            simp only [classifyImports, List.foldl_append, List.foldl_cons, List.foldl_nil, hkind]
          rw [hstep]
          refine ⟨herrors, fun owner => ?_⟩
          simp only [ExportContext.classifyImport, Std.ExtTreeMap.getElem?_insert, hkinds,
            Std.LawfulEqOrd.compare_eq_iff_eq, List.filter_append, List.filterMap_append]
          by_cases howner : decl.localName.id = owner
          · simp [howner, hkind]
          · simp [howner]

/-- A member by itself is no error and no import. -/
lemma errors_seedMember (symbols : SymbolTable) (context : ExportContext) (member : Member) :
    (seedMember symbols context member).errors = context.errors ∧
      (seedMember symbols context member).internalImports = context.internalImports := by
  simp only [seedMember, seedAbstractType, seedSingleton]
  cases member.abstractKind? with
  | none => split_ifs <;> exact ⟨rfl, rfl⟩
  | some kind => split_ifs <;> exact ⟨rfl, rfl⟩

/-- Before the walk there is no error, and the imports of internals are known. -/
lemma errors_exportSeed (unit : CompilationUnit) (symbols : SymbolTable) :
    (exportSeed unit current symbols internal).errors = [] ∧
      ∀ owner, (exportSeed unit current symbols internal).internalImports[owner]? =
        unit.internalKind? current internal owner := by
  obtain ⟨herrors, hkinds⟩ :=
    internalImports_classifyImports current internal unit.imports .empty
  have hmembers : ∀ (members : List Member) (context : ExportContext),
      (members.foldl (seedMember symbols) context).errors = context.errors ∧
        (members.foldl (seedMember symbols) context).internalImports =
          context.internalImports := by
    intro members
    induction members with
    | nil => exact fun context => ⟨rfl, rfl⟩
    | cons member more ih =>
        intro context
        obtain ⟨hfirst, hfirst'⟩ := errors_seedMember symbols context member
        obtain ⟨hmore, hmore'⟩ := ih (seedMember symbols context member)
        exact ⟨hmore.trans hfirst, hmore'.trans hfirst'⟩
  obtain ⟨hseed, hseed'⟩ := hmembers unit.members (classifyImports current internal unit.imports
    .empty)
  refine ⟨by rw [exportSeed, hseed, herrors]; rfl, fun owner => ?_⟩
  rw [exportSeed, hseed', hkinds, CompilationUnit.internalKind?]
  simp [ExportContext.empty]

end Seed

/-! ### The errors of a unit -/

/-- The errors that have been collected after the walk are those of the occurrences. -/
lemma errors_collectExports (unit : CompilationUnit) (current : ModulePath) (facts : Facts)
    (internal : ModuleSet) :
    (collectExports unit current (.ofUnit unit) facts internal).errors =
      unit.occurrences.filterMap (·.error? unit current internal) := by
  obtain ⟨herrors, hkinds⟩ := errors_exportSeed current internal unit (.ofUnit unit)
  rw [collectExports_eq_foldl, errors_foldl_see unit.sightings hkinds, herrors, List.nil_append,
    CompilationUnit.occurrences]

/-- A unit without errors has exports. -/
lemma exists_inferExports_eq_ok {unit : CompilationUnit} {current : ModulePath} {facts : Facts}
    {internal : ModuleSet} (h : unit.occurrences.filterMap (·.error? unit current internal) = []) :
    ∃ context, inferExports unit current (.ofUnit unit) facts internal = .ok context := by
  have herrors := errors_collectExports unit current facts internal
  rw [h] at herrors
  exact ⟨_, if_pos herrors⟩

end BriskModules
