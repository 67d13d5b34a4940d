import BriskModules.Proofs.Export.Mention

/-!
What a reference and a call change in the context of a walk.

Each of the two is told by one equation that says what becomes of every part of the
context, so that what is kept and what commutes can be read off it.

* `ExportContext.tag?`: how much of a singleton is exported, which no step of a walk changes;
* `exportScope_of_finish`, `singletons_of_finish`: what is left when a context is finished;
* `Surroundings.required`: the imports that are required once a name has been referred to,
  in whatever order names are referred to (`required_comm`);
* `Surroundings.Demands`: the condition on which a reference exports a name by name;
* `Surroundings.reported`: the errors of a reference;
* `reference_eq`, `singletonCall_eq`: all that a reference and a call change;
* `abstractTypes_see`, `tag?_see`: what no sighting changes.
-/

namespace BriskModules

attribute [ext] ExportContext

/-! ### Tags of singletons -/

namespace ExportContext

variable (context : ExportContext) (name other : String)

/-- How much of a singleton is exported, if the name is that of one. -/
def tag? : Option SingletonTag :=
  context.singletons[name]?.map (·.tag)

lemma isByNameSingleton_eq :
    context.isByNameSingleton name = decide (context.tag? name = some .byName) := by
  rw [isByNameSingleton, tag?]
  cases context.singletons[name]? with
  | none => rfl
  | some signature => simp

/-- A usage leaves the tag of a singleton alone. -/
lemma tag_record (signature : SingletonSignature) (captures : List String) :
    (signature.record captures).tag = signature.tag := by
  rw [SingletonSignature.record]
  split_ifs <;> rfl

@[simp]
lemma tag?_recordUsage (captures : List String) :
    (context.recordUsage other captures).tag? name = context.tag? name := by
  simp only [tag?, recordUsage, Std.ExtTreeMap.getElem?_modify,
    Std.LawfulEqOrd.compare_eq_iff_eq]
  split_ifs with heq
  · subst heq
    cases context.singletons[other]? with
    | none => rfl
    | some signature => exact congrArg some (tag_record signature captures)
  · rfl

/-! ### What is finished -/

section Finish

variable {context finished : ExportContext} (h : context.finish = .ok finished)

include h

lemma exportScope_of_finish : finished.exportScope = context.exportScope := by
  rw [finish] at h
  split_ifs at h
  rw [← Except.ok.inj h]

lemma requiredImports_of_finish : finished.requiredImports = context.requiredImports := by
  rw [finish] at h
  split_ifs at h
  rw [← Except.ok.inj h]

/-- Just the singletons in the export scope are kept. -/
lemma singletons_of_finish (name : String) :
    finished.singletons[name]? =
      if name ∈ context.exportScope then context.singletons[name]? else none := by
  rw [finish] at h
  split_ifs at h
  rw [← Except.ok.inj h, NameMap.getElem?_filter_contains]

/-- Just the types in the export scope are kept. -/
lemma abstractTypes_of_finish (name : String) :
    finished.abstractTypes[name]? =
      if name ∈ context.exportScope then context.abstractTypes[name]? else none := by
  rw [finish] at h
  split_ifs at h
  rw [← Except.ok.inj h, NameMap.getElem?_filter_contains]

end Finish

end ExportContext

namespace Surroundings

variable (known : Surroundings)

/-! ### Imports that are required -/

/-- The owner with which an imported name is required: none for the local name of an import. -/
def requirement? (name : String) : Option (Option String) :=
  (known.symbols.importedAs? name).map fun
    | .wholeModule => none
    | .member owner => some owner

/-- The imports that are required once a name has been referred to. -/
def required (name : String) (imports : NameMap (Option String)) : NameMap (Option String) :=
  match known.requirement? name with
  | some owner => imports.insertIfNew name owner
  | none => imports

lemma requireIfImported_eq (name : String) (context : ExportContext) :
    known.requireIfImported name context =
      { context with requiredImports := known.required name context.requiredImports } := by
  rw [requireIfImported, required, requirement?]
  cases known.symbols.importedAs? name with
  | none => rfl
  | some imported => cases imported <;> rfl

/-- What is known of a name once another one has been referred to. -/
lemma getElem?_required (name other : String) (imports : NameMap (Option String)) :
    (known.required name imports)[other]? =
      imports[other]?.or (if other = name then known.requirement? name else none) := by
  rw [required]
  cases known.requirement? name with
  | none => simp
  | some owner => exact NameMap.getElem?_insertIfNew imports name other owner

/-- In which order two names are referred to does not matter for what is required: a name has
one owner. -/
lemma required_comm (name other : String) (imports : NameMap (Option String)) :
    known.required name (known.required other imports) =
      known.required other (known.required name imports) := by
  refine Std.ExtTreeMap.ext_getElem? fun key => ?_
  simp only [getElem?_required, Option.or_assoc]
  congr 1
  by_cases hname : key = name
  · by_cases hother : key = other
    · rw [← hname, ← hother]
    · simp [hother]
  · simp [hname]

/-! ### A reference -/

/-- A reference to a name demands that it is exported by name. -/
def Demands (visibility : Visibility) (name : String) (context : ExportContext) : Prop :=
  visibility = .semitransparent ∧ known.symbols.isHidden name = true ∧
    known.mayStayOpaque name context = true

instance (visibility : Visibility) (name : String) (context : ExportContext) :
    Decidable (known.Demands visibility name context) :=
  inferInstanceAs (Decidable (_ ∧ _ ∧ _))

/-- Whether a name may be exported by name hangs on the tags of singletons alone. -/
lemma mayStayOpaque_congr {context context' : ExportContext} {name : String}
    (h : context.tag? name = context'.tag? name) :
    known.mayStayOpaque name context = known.mayStayOpaque name context' := by
  rw [mayStayOpaque, mayStayOpaque, ExportContext.isByNameSingleton_eq,
    ExportContext.isByNameSingleton_eq, h]

lemma demands_congr {context context' : ExportContext} {visibility : Visibility} {name : String}
    (h : context.tag? name = context'.tag? name) :
    known.Demands visibility name context ↔ known.Demands visibility name context' := by
  rw [Demands, Demands, known.mayStayOpaque_congr h]

/-- Which name leaks internals hangs on the imports of internals alone. -/
lemma internalLeak?_congr {context context' : ExportContext}
    (h : context.internalImports = context'.internalImports) (exposing : String)
    (path : List String) (loc : Loc) :
    known.internalLeak? exposing path loc context =
      known.internalLeak? exposing path loc context' := by
  rw [internalLeak?, internalLeak?, h]

lemma checkInternalLeak_eq (exposing : String) (path : List String) (loc : Loc)
    (context : ExportContext) :
    known.checkInternalLeak exposing path loc context =
      { context with
        errors := context.errors ++ (known.internalLeak? exposing path loc context).toList } := by
  rw [checkInternalLeak]
  cases known.internalLeak? exposing path loc context with
  | none => simp
  | some error => rfl

/-- The errors of a reference. -/
def reported (kind : ReferenceKind) (visibility : Visibility) (exposing first : String)
    (rest : List String) (loc : Loc) (context : ExportContext) : List ExportError :=
  if visibility = .transparent then
    (if known.symbols.isHidden first then
      [lessAccessible kind (known.symbols.declaringName (first :: rest)) exposing loc] else []) ++
      (known.internalLeak? exposing (first :: rest) loc context).toList
  else []

lemma reported_congr {context context' : ExportContext}
    (h : context.internalImports = context'.internalImports) (kind : ReferenceKind)
    (visibility : Visibility) (exposing first : String) (rest : List String) (loc : Loc) :
    known.reported kind visibility exposing first rest loc context =
      known.reported kind visibility exposing first rest loc context' := by
  rw [reported, reported, known.internalLeak?_congr h]

/-- **All that a reference changes**: a name may be exported by name, its import is required
unless nothing is revealed, and there may be errors. -/
lemma reference_eq (kind : ReferenceKind) (visibility : Visibility) (exposing first : String)
    (rest : List String) (loc : Loc) (context : ExportContext) :
    known.reference kind visibility exposing (first :: rest) loc context =
      { context with
        exportScope :=
          if known.Demands visibility first context then context.exportScope.insert first
          else context.exportScope
        requiredImports :=
          if visibility = .invisible then context.requiredImports
          else known.required first context.requiredImports
        errors := context.errors ++
          known.reported kind visibility exposing first rest loc context } := by
  cases visibility with
  | invisible => simp [reference, Demands, reported]
  | semitransparent =>
      simp only [reference, requireIfImported_eq, Demands, reported, true_and, reduceCtorEq,
        ↓reduceIte, List.append_nil, Bool.and_eq_true]
      split_ifs <;> rfl
  | transparent =>
      simp only [reference, requireIfImported_eq, checkInternalLeak_eq, Demands, reported,
        reduceCtorEq, false_and, ↓reduceIte]
      split_ifs with hhidden
      · simp only [ExportContext.report, List.append_assoc]
        rfl
      · simp only [List.nil_append]
        rfl

/-! ### A call -/

/-- The name of a callee, if it is that of a known singleton. -/
def IsSingleton (callee : List String) : Prop :=
  known.facts.singletons.contains (Text.joined "." callee) = true

instance (callee : List String) : Decidable (known.IsSingleton callee) :=
  inferInstanceAs (Decidable (_ = true))

/-- **All that a call changes**: if a singleton is called, its import is required, and the
captures are a usage of it. -/
lemma singletonCall_eq (callee : List String) (captures : List (List String))
    (context : ExportContext) :
    known.singletonCall callee captures context =
      if known.IsSingleton callee then
        { context with
          requiredImports := known.required (callee.headD "") context.requiredImports
          singletons := context.singletons.modify (Text.joined "." callee)
            (·.record (captures.map (Text.joined "."))) }
      else context := by
  simp only [singletonCall, requireIfImported_eq, IsSingleton]
  rfl

/-! ### What no sighting changes -/

variable (context : ExportContext)

/-- A walk learns of no abstract type. -/
lemma abstractTypes_see (sighting : Sighting) :
    (known.see context sighting).abstractTypes = context.abstractTypes := by
  obtain ⟨exposing, visibility, mention⟩ := sighting
  cases mention with
  | name kind first rest loc sized => rw [see, follow, reference_eq]
  | call callee captures =>
      rw [see, follow, singletonCall_eq]
      split_ifs <;> rfl

/-- A walk changes no tag. -/
lemma tag?_see (sighting : Sighting) (name : String) :
    (known.see context sighting).tag? name = context.tag? name := by
  obtain ⟨exposing, visibility, mention⟩ := sighting
  cases mention with
  | name kind first rest loc sized =>
      rw [see, follow, reference_eq]
      rfl
  | call callee captures =>
      rw [see, follow, singletonCall_eq]
      split_ifs
      · exact context.tag?_recordUsage name _ _
      · rfl

end Surroundings

end BriskModules
