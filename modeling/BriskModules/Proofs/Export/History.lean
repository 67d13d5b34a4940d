import BriskModules.Proofs.Export.Singletons

/-!
An export context after any history of changes.

There are seven ways to change a context, and every collection in it has its own rule for what
comes again. Each rule is told once for a single change, and then for a whole history from an
empty context: the first tag of a singleton and the first owner of a required name stay, the last
kind of a type and of an import counts, errors add up, and so do the usages of a singleton that
come behind its declaration, each once. Whatever inference collects is what such a history
collects.

* `ExportContext.Change`, `ExportContext.ofChanges`: changes, and a context after a history;
* `Change.owner?`, `Change.tag?`, `Change.captures?` and so on: what a change tells of a name;
* `ExportContext.recorded`: the usages that are recorded once a singleton is declared;
* `requiredImports_change`, `singletons_change` and so on: the rule of each collection;
* `requiredImports_ofChanges`, `singletons_ofChanges` and so on: what it comes to in a history;
* `ExportContext.Restricts`, `exists_finish_eq`, `finish_bind_finish`: what is finished;
* `rules_ofChanges` (**what is known of a context after any history**);
* `exists_ofChanges_eq_collectExports`: inference goes through such a history.
-/

namespace BriskModules

namespace ExportContext

/-! ### Changes -/

/-- A change of an export context. -/
inductive Change where
  | exportName (name : String)
  | requireImport (name : String) (owner : Option String)
  | declareSingleton (name : String) (tag : SingletonTag)
  | recordUsage (name : String) (captures : List String)
  | declareAbstractType (name : String) (kind : AbstractKind)
  | classifyImport (localName : String) (kind : InternalKind)
  | report (error : ExportError)
deriving DecidableEq

/-- A context after one more change. -/
def change (context : ExportContext) : Change → ExportContext
  | .exportName name => context.exportName name
  | .requireImport name owner => context.requireImport name owner
  | .declareSingleton name tag => context.declareSingleton name tag
  | .recordUsage name captures => context.recordUsage name captures
  | .declareAbstractType name kind => context.declareAbstractType name kind
  | .classifyImport localName kind => context.classifyImport localName kind
  | .report error => context.report error

/-- The context after a history of changes from an empty one. -/
def ofChanges (changes : List Change) : ExportContext :=
  changes.foldl change empty

lemma ofChanges_concat (front : List Change) (last : Change) :
    ofChanges (front ++ [last]) = (ofChanges front).change last := by
  rw [ofChanges, List.foldl_append]
  rfl

namespace Change

variable (name : String)

/-- The owner with which a change requires a name. -/
def owner? : Change → Option (Option String)
  | .requireImport other owner => if name = other then some owner else none
  | _ => none

/-- The tag with which a change declares a singleton. -/
def tag? : Change → Option SingletonTag
  | .declareSingleton other tag => if name = other then some tag else none
  | _ => none

/-- The captures that a change records for a singleton. -/
def captures? : Change → Option (List String)
  | .recordUsage other captures => if name = other then some captures else none
  | _ => none

/-- The kind of an abstract type that a change declares. -/
def abstractKind? : Change → Option AbstractKind
  | .declareAbstractType other kind => if name = other then some kind else none
  | _ => none

/-- The kind of internals that a change gives to an import. -/
def internalKind? : Change → Option InternalKind
  | .classifyImport other kind => if name = other then some kind else none
  | _ => none

/-- The error that a change reports. -/
def error? : Change → Option ExportError
  | .report error => some error
  | _ => none

end Change

/-- The captures that a history records for a singleton from its first declaration on. -/
def recorded (name : String) (changes : List Change) : List (List String) :=
  (changes.dropWhile fun change => (change.tag? name).isNone).filterMap (Change.captures? name)

/-! ### One change -/

section Change

variable (context : ExportContext) (change : Change) (name : String)

lemma mem_exportScope_change :
    name ∈ (context.change change).exportScope ↔
      name ∈ context.exportScope ∨ change = .exportName name := by
  cases change with
  | exportName other =>
      rw [ExportContext.change, exportName, Std.ExtTreeSet.mem_insert,
        Std.LawfulEqOrd.compare_eq_iff_eq, Change.exportName.injEq, or_comm]
  | _ => exact (or_iff_left nofun).symm

/-- An owner that is known stays. -/
lemma requiredImports_change :
    (context.change change).requiredImports[name]? =
      context.requiredImports[name]?.or (change.owner? name) := by
  cases change with
  | requireImport other owner => exact NameMap.getElem?_insertIfNew _ other name owner
  | _ => exact Option.or_none.symm

/-- A singleton that is known keeps its tag, and captures are recorded for no other. -/
lemma singletons_change :
    (context.change change).singletons[name]? =
      (context.singletons[name]?.map fun signature =>
        (change.captures? name).toList.foldl SingletonSignature.record signature).or
          ((change.tag? name).map (⟨·, []⟩)) := by
  cases change with
  | declareSingleton other tag =>
      have hinsert := NameMap.getElem?_insertIfNew context.singletons other name ⟨tag, []⟩
      refine hinsert.trans (congrArg₂ Option.or Option.map_id'.symm ?_)
      rw [Change.tag?]
      split_ifs <;> rfl
  | recordUsage other captures =>
      simp only [ExportContext.change, recordUsage, Std.ExtTreeMap.getElem?_modify,
        Std.LawfulEqOrd.compare_eq_iff_eq, Change.tag?, Change.captures?, Option.map_none,
        Option.or_none, eq_comm (a := other)]
      split_ifs with hname
      · rw [hname]
        rfl
      · exact Option.map_id'.symm
  | _ => exact (Option.or_none.trans Option.map_id').symm

/-- The last kind of a type counts. -/
lemma abstractTypes_change :
    (context.change change).abstractTypes[name]? =
      (change.abstractKind? name).or context.abstractTypes[name]? := by
  cases change with
  | declareAbstractType other kind => exact NameMap.getElem?_insert_eq_or _ other name kind
  | _ => rfl

/-- The last kind of an import counts. -/
lemma internalImports_change :
    (context.change change).internalImports[name]? =
      (change.internalKind? name).or context.internalImports[name]? := by
  cases change with
  | classifyImport other kind => exact NameMap.getElem?_insert_eq_or _ other name kind
  | _ => rfl

lemma errors_change :
    (context.change change).errors = context.errors ++ change.error?.toList := by
  cases change with
  | report error => rfl
  | _ => exact (List.append_nil _).symm

end Change

/-! ### A history -/

section History

/-- Of what is picked from a list the last one is picked from its end if possible. -/
lemma getLast?_filterMap_concat {α β : Type} (pick : α → Option β) (front : List α) (last : α) :
    ((front ++ [last]).filterMap pick).getLast? =
      (pick last).or (front.filterMap pick).getLast? := by
  rw [List.filterMap_append, List.getLast?_append]
  cases hlast : pick last <;> simp [hlast]

variable (changes : List Change) (name : String)

lemma mem_exportScope_ofChanges :
    name ∈ (ofChanges changes).exportScope ↔ .exportName name ∈ changes := by
  induction changes using List.reverseRecOn with
  | nil => simp [ofChanges, empty]
  | append_singleton front last ih =>
      rw [ofChanges_concat, mem_exportScope_change, ih, List.mem_append, List.mem_singleton,
        eq_comm (a := last)]

/-- The first owner of a required name stays. -/
lemma requiredImports_ofChanges :
    (ofChanges changes).requiredImports[name]? = changes.findSome? (Change.owner? name) := by
  induction changes using List.reverseRecOn with
  | nil => simp [ofChanges, empty]
  | append_singleton front last ih =>
      rw [ofChanges_concat, requiredImports_change, ih, List.findSome?_append,
        List.findSome?_singleton]

/-- The last kind of a type counts. -/
lemma abstractTypes_ofChanges :
    (ofChanges changes).abstractTypes[name]? =
      (changes.filterMap (Change.abstractKind? name)).getLast? := by
  induction changes using List.reverseRecOn with
  | nil => simp [ofChanges, empty]
  | append_singleton front last ih =>
      rw [ofChanges_concat, abstractTypes_change, ih, getLast?_filterMap_concat]

/-- The last kind of an import counts. -/
lemma internalImports_ofChanges :
    (ofChanges changes).internalImports[name]? =
      (changes.filterMap (Change.internalKind? name)).getLast? := by
  induction changes using List.reverseRecOn with
  | nil => simp [ofChanges, empty]
  | append_singleton front last ih =>
      rw [ofChanges_concat, internalImports_change, ih, getLast?_filterMap_concat]

/-- Errors add up in their order. -/
lemma errors_ofChanges : (ofChanges changes).errors = changes.filterMap Change.error? := by
  induction changes using List.reverseRecOn with
  | nil => rfl
  | append_singleton front last ih =>
      rw [ofChanges_concat, errors_change, ih, List.filterMap_append]
      cases hlast : last.error? <;> simp [hlast]

variable {changes name}

/-- Once a singleton is known, its tag stays and the captures of its usages are recorded. -/
lemma singletons_foldl_change_of_some {context : ExportContext} {signature : SingletonSignature}
    (hknown : context.singletons[name]? = some signature) :
    (changes.foldl change context).singletons[name]? =
      some ((changes.filterMap (Change.captures? name)).foldl SingletonSignature.record
        signature) := by
  induction changes generalizing context signature with
  | nil => exact hknown
  | cons first more ih =>
      have hfirst := context.singletons_change first name
      rw [hknown, Option.map_some, Option.some_or] at hfirst
      rw [List.foldl_cons, ih hfirst, List.filterMap_cons]
      cases first.captures? name <;> rfl

/-- A change that declares a singleton records no captures. -/
lemma captures?_eq_none_of_tag? {first : Change} {tag : SingletonTag}
    (h : first.tag? name = some tag) : first.captures? name = none := by
  cases first with
  | recordUsage => cases h
  | _ => rfl

/-- A singleton gets its first tag, and the distinct captures that come behind it in the order in
which they first come. -/
lemma singletons_foldl_change_of_none {context : ExportContext}
    (hnew : context.singletons[name]? = none) :
    (changes.foldl change context).singletons[name]? =
      (changes.findSome? (Change.tag? name)).map fun tag =>
        ⟨tag, (recorded name changes).eraseDups⟩ := by
  induction changes generalizing context with
  | nil => exact hnew
  | cons first more ih =>
      have hfirst := context.singletons_change first name
      rw [hnew, Option.map_none, Option.none_or] at hfirst
      rw [List.foldl_cons, List.findSome?_cons]
      cases htag : first.tag? name with
      | none =>
          -- what is recorded before the declaration is lost
          have hrecorded : recorded name (first :: more) = recorded name more := by
            rw [recorded, List.dropWhile_cons_of_pos (by simp [htag])]
            rfl
          rw [htag, Option.map_none] at hfirst
          rw [ih hfirst, hrecorded]
      | some tag =>
          have hrecorded : recorded name (first :: more) =
              more.filterMap (Change.captures? name) := by
            rw [recorded, List.dropWhile_cons_of_neg (by simp [htag]),
              List.filterMap_cons_none (captures?_eq_none_of_tag? htag)]
          rw [htag, Option.map_some] at hfirst
          rw [singletons_foldl_change_of_some hfirst, foldl_record, Option.map_some, hrecorded]

/-- A singleton has its first tag, and the distinct captures that are recorded from its first
declaration on. -/
lemma singletons_ofChanges :
    (ofChanges changes).singletons[name]? =
      (changes.findSome? (Change.tag? name)).map fun tag =>
        ⟨tag, (recorded name changes).eraseDups⟩ :=
  singletons_foldl_change_of_none (by simp [empty])

end History

/-! ### What is finished -/

/-- A context without errors holds what another one does, less the types and singletons that its
export scope does not demand. -/
structure Restricts (finished context : ExportContext) : Prop where
  exportScope : finished.exportScope = context.exportScope
  requiredImports : finished.requiredImports = context.requiredImports
  internalImports : finished.internalImports = context.internalImports
  singletons : ∀ name, finished.singletons[name]? =
    if name ∈ context.exportScope then context.singletons[name]? else none
  abstractTypes : ∀ name, finished.abstractTypes[name]? =
    if name ∈ context.exportScope then context.abstractTypes[name]? else none
  errors : finished.errors = []

section Finish

variable {context finished other : ExportContext}

/-- There is only one such context. -/
lemma Restricts.eq (h : finished.Restricts context) (hother : other.Restricts context) :
    finished = other := by
  refine ExportContext.ext (h.exportScope.trans hother.exportScope.symm)
    (h.requiredImports.trans hother.requiredImports.symm) ?_ ?_
    (h.internalImports.trans hother.internalImports.symm) (h.errors.trans hother.errors.symm)
  · exact Std.ExtTreeMap.ext_getElem? fun name =>
      (h.singletons name).trans (hother.singletons name).symm
  · exact Std.ExtTreeMap.ext_getElem? fun name =>
      (h.abstractTypes name).trans (hother.abstractTypes name).symm

/-- Nothing is left to be dropped from it. -/
lemma Restricts.self (h : finished.Restricts context) : finished.Restricts finished where
  exportScope := rfl
  requiredImports := rfl
  internalImports := rfl
  singletons name := by
    rw [h.singletons, h.exportScope]
    split_ifs <;> rfl
  abstractTypes name := by
    rw [h.abstractTypes, h.exportScope]
    split_ifs <;> rfl
  errors := h.errors

/-- Errors are given as they are, and a context without errors is restricted. -/
lemma exists_finish_eq (context : ExportContext) :
    ∃ finished, finished.Restricts context ∧
      context.finish = if context.errors = [] then .ok finished else .error context.errors := by
  refine ⟨{ context with
    abstractTypes := context.abstractTypes.filter fun name _ => context.exportScope.contains name
    singletons := context.singletons.filter fun name _ => context.exportScope.contains name
    errors := [] }, ⟨rfl, rfl, rfl, fun name => ?_, fun name => ?_, rfl⟩, ?_⟩
  · exact NameMap.getElem?_filter_contains _ _ name
  · exact NameMap.getElem?_filter_contains _ _ name
  · rw [finish]
    split_ifs with herrors
    · rw [herrors]
    · rfl

/-- What is finished stays as it is when it is finished again. -/
lemma finish_bind_finish (context : ExportContext) :
    context.finish.bind finish = context.finish := by
  obtain ⟨finished, hfinished, heq⟩ := context.exists_finish_eq
  rw [heq]
  split_ifs with herrors
  · obtain ⟨again, hagain, heq'⟩ := finished.exists_finish_eq
    calc finished.finish = .ok again := heq'.trans (if_pos hfinished.errors)
      _ = .ok finished := congrArg Except.ok (hagain.eq hfinished.self)
  · rfl

end Finish

/-- **What is known of a context after any history**: the export scope has the names that were
exported, a required name has its first owner, a singleton has its first tag and the distinct
captures that were recorded behind its declaration in the order in which they first came, and a
type and an import have their last kinds. If errors were reported, just they are given when the
context is finished, in their order; otherwise only types and singletons outside the export scope
are dropped. Finishing again changes nothing. -/
theorem rules_ofChanges (changes : List Change) :
    let context := ofChanges changes
    let reported := changes.filterMap Change.error?
    (∀ name, name ∈ context.exportScope ↔ .exportName name ∈ changes) ∧
    (∀ name, context.requiredImports[name]? = changes.findSome? (Change.owner? name)) ∧
    (∀ name, context.singletons[name]? = (changes.findSome? (Change.tag? name)).map fun tag =>
      ⟨tag, (recorded name changes).eraseDups⟩) ∧
    (∀ name, context.abstractTypes[name]? =
      (changes.filterMap (Change.abstractKind? name)).getLast?) ∧
    (∀ name, context.internalImports[name]? =
      (changes.filterMap (Change.internalKind? name)).getLast?) ∧
    (∃ finished, finished.Restricts context ∧
      context.finish = if reported = [] then .ok finished else .error reported) ∧
    context.finish.bind finish = context.finish := by
  intro context reported
  have herrors : context.errors = reported := errors_ofChanges changes
  refine ⟨mem_exportScope_ofChanges changes, requiredImports_ofChanges changes,
    fun _ => singletons_ofChanges, abstractTypes_ofChanges changes,
    internalImports_ofChanges changes, ?_, finish_bind_finish context⟩
  rw [← herrors]
  exact exists_finish_eq context

/-- Captures in front of the declaration are lost, those that come again are kept once, and a
second tag does not count. -/
example :
    (ofChanges [.recordUsage "s" ["e"], .declareSingleton "s" .translucent,
      .recordUsage "s" ["f", "g"], .recordUsage "s" [], .recordUsage "s" ["f", "g"],
      .declareSingleton "s" .byName]).singletons["s"]? =
        some ⟨.translucent, [["f", "g"], []]⟩ := by
  decide +kernel

/-! ### The history of a walk -/

/-- A context becomes another one by changes. -/
def Becomes (context later : ExportContext) : Prop :=
  ∃ changes : List Change, changes.foldl change context = later

namespace Becomes

variable {first second third : ExportContext}

lemma refl (context : ExportContext) : context.Becomes context := ⟨[], rfl⟩

lemma of_change (context : ExportContext) (step : Change) :
    context.Becomes (context.change step) := ⟨[step], rfl⟩

lemma trans : first.Becomes second → second.Becomes third → first.Becomes third := by
  rintro ⟨front, rfl⟩ ⟨back, rfl⟩
  exact ⟨front ++ back, List.foldl_append⟩

/-- A change that is made on a condition is a change, or none. -/
lemma ite_change (context : ExportContext) (step : Change) (p : Prop) [Decidable p] :
    context.Becomes (if p then context.change step else context) := by
  split_ifs
  · exact of_change context step
  · exact refl context

/-- Step by step a context becomes what all steps make of it. -/
lemma foldl {α : Type} {step : ExportContext → α → ExportContext}
    (h : ∀ context item, Becomes context (step context item)) (items : List α)
    (context : ExportContext) : context.Becomes (items.foldl step context) := by
  induction items generalizing context with
  | nil => exact refl context
  | cons item more ih => exact (h context item).trans (ih (step context item))

end Becomes

end ExportContext

namespace Surroundings

open ExportContext

variable (known : Surroundings)

lemma becomes_requireIfImported (name : String) (context : ExportContext) :
    context.Becomes (known.requireIfImported name context) := by
  rw [requireIfImported]
  split
  · exact .of_change context (.requireImport name none)
  · exact .of_change context (.requireImport name _)
  · exact .refl context

lemma becomes_checkInternalLeak (exposing : String) (path : List String) (loc : Loc)
    (context : ExportContext) :
    context.Becomes (known.checkInternalLeak exposing path loc context) := by
  rw [checkInternalLeak]
  split
  · exact .of_change context (.report _)
  · exact .refl context

lemma becomes_reference (kind : ReferenceKind) (visibility : Visibility) (exposing : String)
    (path : List String) (loc : Loc) (context : ExportContext) :
    context.Becomes (known.reference kind visibility exposing path loc context) := by
  cases path with
  | nil => exact .refl context
  | cons first rest =>
      cases visibility with
      | invisible => exact .refl context
      | semitransparent =>
          have hexport := Becomes.ite_change context (.exportName first)
            ((known.symbols.isHidden first && known.mayStayOpaque first context) = true)
          exact hexport.trans (known.becomes_requireIfImported first _)
      | transparent =>
          have hreport := Becomes.ite_change context
            (.report (lessAccessible kind (known.symbols.declaringName (first :: rest)) exposing
              loc)) (known.symbols.isHidden first = true)
          exact (hreport.trans (known.becomes_requireIfImported first _)).trans
            (known.becomes_checkInternalLeak exposing (first :: rest) loc _)

lemma becomes_singletonCall (callee : List String) (captures : List (List String))
    (context : ExportContext) :
    context.Becomes (known.singletonCall callee captures context) := by
  rw [singletonCall]
  split_ifs
  · exact (known.becomes_requireIfImported _ context).trans (.of_change _ (.recordUsage _ _))
  · exact .refl context

/-- A sighting makes changes only. -/
lemma becomes_see (context : ExportContext) (sighting : Sighting) :
    context.Becomes (known.see context sighting) := by
  obtain ⟨exposing, visibility, mention⟩ := sighting
  cases mention with
  | name kind first rest loc sized =>
      exact known.becomes_reference kind (visibility.within sized) exposing (first :: rest) loc
        context
  | call callee captures => exact known.becomes_singletonCall callee captures context

/-- A walk through a member makes changes only. -/
lemma becomes_member (context : ExportContext) (decl : Member) :
    context.Becomes (known.member context decl) := by
  rw [member_eq_foldl]
  exact .foldl known.becomes_see _ context

end Surroundings

open ExportContext

lemma becomes_classifyImports (current : ModulePath) (internal : ModuleSet)
    (imports : List Import) (context : ExportContext) :
    context.Becomes (classifyImports current internal imports context) := by
  refine .foldl (fun context decl => ?_) imports context
  split
  · exact .of_change context (.classifyImport decl.localName.id _)
  · exact .refl context

lemma becomes_seedAbstractType (decl : Member) (exposed : Bool) (context : ExportContext) :
    context.Becomes (seedAbstractType decl exposed context) := by
  rw [seedAbstractType]
  split
  · split_ifs
    · exact .refl context
    · exact .of_change context (.declareAbstractType decl.name.id _)
  · exact .refl context

lemma becomes_seedMember (symbols : SymbolTable) (context : ExportContext) (decl : Member) :
    context.Becomes (seedMember symbols context decl) := by
  rw [seedMember]
  have hexport := Becomes.ite_change context (.exportName decl.name.id)
    (symbols.isExposed decl.name.id = true)
  refine hexport.trans (.trans ?_ (becomes_seedAbstractType decl _ _))
  exact .ite_change _ (.declareSingleton decl.name.id _) (decl.isSingleton = true)

/-- **Inference goes through a history of changes**, so the rules hold of all that it collects. -/
theorem exists_ofChanges_eq_collectExports (unit : CompilationUnit) (current : ModulePath)
    (symbols : SymbolTable) (facts : Facts) (internal : ModuleSet) :
    ∃ changes, ofChanges changes = collectExports unit current symbols facts internal := by
  have hseed : empty.Becomes (exportSeed unit current symbols internal) :=
    (becomes_classifyImports current internal unit.imports empty).trans
      (.foldl (becomes_seedMember symbols) unit.members _)
  exact hseed.trans (.foldl (Surroundings.becomes_member _) unit.members _)

end BriskModules
