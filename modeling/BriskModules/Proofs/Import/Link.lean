import BriskModules.Import.Check
import BriskModules.Import.Facts
import Mathlib.Tactic

/-!
Links: imports with the modules that they lead to.

What the check of the imports of a module accepts is described without it: a link is
admissible if its import resolves to its target and the target may be imported from there.
Registering links that have different targets keeps all of them in order.

* `Importable`, `Link.Admissible`: the conditions on a module that is imported and on one import;
* `importTarget_eq`, `importTarget_eq_ok_iff`: the checks before a module is required, and when
  they leave a target that is to be required;
* `importTarget_eq_cyclic`, `accept_eq_error`: why an import is refused;
* `exists_toDiagnostics_eq`: what is said of an import that is refused;
* `Imports.addLinks`: links registered one after the other;
* `localNames_addLinks`, `paths_addLinks`: what is known of them afterwards.
-/

namespace BriskModules

/-- An import, the module path it leads to, and the module there. -/
structure Link (α : Type) where
  decl : Import
  target : ModulePath
  module : ModuleInfo α

/-- A module may be imported under a path: it has a specification, so it is no program, and if
that says that it is internal, it belongs to the package of the importing module. -/
def Importable {α : Type} (current target : ModulePath) (info : ModuleInfo α) : Prop :=
  ∃ spec, info.spec = some spec ∧ (spec.isInternal = true → target.package = current.package)

/-- A link is admissible in the module `current`: the text of the import leads to the target,
only a whitebox import of the own package sees internals, and the module may be imported. -/
structure Link.Admissible {α : Type} (current : ModulePath) (link : Link α) : Prop where
  resolves : resolveImport current link.decl.path = .ok link.target
  whitebox : link.decl.whitebox = true → link.target.package = current.package
  importable : Importable current link.target link.module

/-! ### The check of one import -/

section Check

variable {α : Type} {decl : Import} {current target : ModulePath} {imports : Imports α}

/-- The checks of an import before its module is required, one after the other. -/
lemma importTarget_eq (decl : Import) (current : ModulePath) (imports : Imports α) :
    importTarget decl current imports =
      match ImportPath.parse decl.path with
      | .error error => .error (.invalidPath decl.path error decl.pathLoc)
      | .ok path =>
        match path.resolve current with
        | .error error => .error (.outsideRoot error decl.pathLoc)
        | .ok target =>
          if target ∈ imports.chain.modules then
            .error (.cyclic target imports.chain decl.pathLoc)
          else if imports.contains target = true then .error (.multiple target decl.pathLoc)
          else if decl.whitebox = true ∧ target.package ≠ current.package then
            .error (.illegalWhitebox target decl.pathLoc)
          else .ok target := by
  unfold importTarget
  cases ImportPath.parse decl.path with
  | error error => rfl
  | ok path =>
      cases hresolve : path.resolve current <;>
        simp [hresolve, ImportChain.contains, bind, Except.bind, pure, Except.pure, throw,
          throwThe, MonadExceptOf.throw]

/-- An import has a target to be required iff its text leads there, no module of the chain
and no earlier import has that path, and whitebox imports stay in the package. -/
lemma importTarget_eq_ok_iff :
    importTarget decl current imports = .ok target ↔
      resolveImport current decl.path = .ok target ∧ target ∉ imports.chain.modules ∧
        imports.contains target = false ∧
          (decl.whitebox = true → target.package = current.package) := by
  rw [importTarget_eq, resolveImport]
  cases ImportPath.parse decl.path with
  | error error => simp
  | ok path =>
      simp only
      cases path.resolve current with
      | error error => simp
      | ok found =>
          simp only [Except.ok.injEq]
          constructor
          · intro h
            split_ifs at h with hchain hcontains hwhitebox
            obtain rfl := Except.ok.inj h
            simp only [not_and, not_not] at hwhitebox
            exact ⟨rfl, hchain, by simpa using hcontains, hwhitebox⟩
          · rintro ⟨rfl, hchain, hcontains, hwhitebox⟩
            rw [if_neg hchain, if_neg (by simp [hcontains]),
              if_neg (fun h => h.2 (hwhitebox h.1))]

/-- What is asked of a module that is imported. -/
lemma importable_iff {info : ModuleInfo α} :
    Importable current target info ↔
      info.isProgram = false ∧ (info.isInternal = true → target.package = current.package) := by
  rw [Importable, ModuleInfo.isProgram, ModuleInfo.isInternal]
  cases info.spec <;> simp

/-- What is accepted is the compiled module itself, if it may be imported. -/
lemma accept_eq_ok_iff {result : CompileResult α} {info : ModuleInfo α} :
    accept decl current target result = .ok info ↔
      result = .ok info ∧ Importable current target info := by
  cases result with
  | error failure => simp [accept]
  | ok found =>
      rw [importable_iff]
      simp only [accept, Except.ok.injEq]
      constructor
      · intro h
        split_ifs at h with hprogram hinternal
        obtain rfl := Except.ok.inj h
        simp only [not_and, not_not] at hinternal
        exact ⟨rfl, by simpa using hprogram, hinternal⟩
      · rintro ⟨rfl, hprogram, hinternal⟩
        rw [if_neg (by simp [hprogram]), if_neg (fun h => h.2 (hinternal h.1))]

/-- An import that is refused for a cycle leads into the chain. -/
lemma importTarget_eq_cyclic {chain : ImportChain} {loc : Loc}
    (h : importTarget decl current imports = .error (.cyclic target chain loc)) :
    resolveImport current decl.path = .ok target ∧ chain = imports.chain ∧
      target ∈ imports.chain.modules := by
  rw [importTarget_eq] at h
  rw [resolveImport]
  cases hparse : ImportPath.parse decl.path with
  | error error => simp [hparse] at h
  | ok path =>
      simp only [hparse] at h ⊢
      cases hresolve : path.resolve current with
      | error error => simp [hresolve] at h
      | ok found =>
          simp only [hresolve] at h ⊢
          split_ifs at h with hchain
          · simp only [Except.error.injEq, ImportError.cyclic.injEq] at h
            obtain ⟨rfl, rfl, -⟩ := h
            exact ⟨rfl, rfl, hchain⟩
          all_goals simp at h

/-- A module that is not accepted has failed, or may not be imported. -/
lemma accept_eq_error {result : CompileResult α} {error : ImportError}
    (h : accept decl current target result = .error error) :
    (∃ failure, result = .error failure ∧ error = .cannotCompile target failure decl.pathLoc) ∨
      error = .program target decl.pathLoc ∨ error = .illegalInternal target decl.pathLoc := by
  cases result with
  | error failure => exact .inl ⟨failure, rfl, (Except.error.inj h).symm⟩
  | ok found =>
      rw [accept] at h
      split_ifs at h
      · exact .inr (.inl (Except.error.inj h).symm)
      · exact .inr (.inr (Except.error.inj h).symm)

end Check

/-! ### What is said of a refused import -/

namespace ImportError

/-- What is wrong with a module that could not be compiled. -/
def causes : ImportError → List Diagnostic
  | .cannotCompile _ failure _ => failure.diagnostics
  | _ => []

/-- The diagnostics of an import that is refused are one about the import and those of its
causes. -/
lemma exists_toDiagnostics_eq (error : ImportError) (file : Span) :
    ∃ own : Diagnostic, own.level = .error ∧ own.code = error.code ∧
      own.message = error.message ∧ error.toDiagnostics file = own :: error.causes := by
  cases error <;> exact ⟨_, rfl, rfl, rfl, rfl⟩

lemma exists_eq_cyclic {error : ImportError} (h : error.code = Code.cyclicImport) :
    ∃ target chain loc, error = .cyclic target chain loc := by
  cases error with
  | cyclic target chain loc => exact ⟨target, chain, loc, rfl⟩
  | _ => exact absurd h (by simp only [code]; decide)

/-- An import whose target is not required is refused for no cause in another module. -/
lemma causes_of_importTarget {α : Type} {decl : Import} {current : ModulePath}
    {imports : Imports α} {error : ImportError}
    (h : importTarget decl current imports = .error error) :
    error.code ≠ Code.cannotCompileImport ∧ error.causes = [] := by
  have hfirst : ∀ target failure loc, error ≠ .cannotCompile target failure loc := by
    rintro target failure loc rfl
    rw [importTarget_eq] at h
    split at h
    · cases h
    · split at h
      · cases h
      · split_ifs at h <;> cases h
  cases error with
  | cannotCompile target failure loc => exact absurd rfl (hfirst target failure loc)
  | _ => exact ⟨by simp only [code]; decide, rfl⟩

end ImportError

/-! ### Registering links -/

namespace Imports

variable {α : Type}

/-- The imports with links in addition, in their order. -/
def addLinks (imports : Imports α) (links : List (Link α)) : Imports α :=
  links.foldl (fun imports link =>
    imports.register link.decl.localName.id link.target link.module) imports

lemma addLinks_append (imports : Imports α) (links more : List (Link α)) :
    imports.addLinks (links ++ more) = (imports.addLinks links).addLinks more :=
  List.foldl_append

@[simp]
lemma chain_register (imports : Imports α) (localName : String) (path : ModulePath)
    (info : ModuleInfo α) : (imports.register localName path info).chain = imports.chain :=
  rfl

/-- The paths that are known are those that have been registered. -/
@[simp]
lemma contains_register (imports : Imports α) (localName : String)
    (path other : ModulePath) (info : ModuleInfo α) :
    (imports.register localName path info).contains other = true ↔
      other = path ∨ imports.contains other = true := by
  simp only [contains, register, Std.ExtTreeMap.contains_insertIfNew, Bool.or_eq_true,
    beq_iff_eq, Std.LawfulEqOrd.compare_eq_iff_eq, @eq_comm _ path]

lemma contains_empty (chain : ImportChain) (path : ModulePath) :
    (empty chain : Imports α).contains path = false := by
  simp [contains, empty]

/-- A path that is registered for the first time comes last, with its local name. -/
lemma localNames_register {imports : Imports α} {localName : String} {path : ModulePath}
    {info : ModuleInfo α} (hnew : path ∉ imports.paths) :
    (imports.register localName path info).localNames =
      imports.localNames ++ [(localName, path)] := by
  have hpair : (localName, path) ∉ imports.localNames := fun h =>
    hnew (List.mem_map_of_mem (f := Prod.snd) h)
  simp [register, hpair]

/-- Links with different targets that are new keep all their local names and targets in
order. -/
lemma localNames_addLinks {imports : Imports α} {links : List (Link α)}
    (h : (imports.paths ++ links.map Link.target).Nodup) :
    (imports.addLinks links).localNames =
      imports.localNames ++ links.map fun link => (link.decl.localName.id, link.target) := by
  induction links generalizing imports with
  | nil => simp [addLinks]
  | cons link more ih =>
      have hnew : link.target ∉ imports.paths := by
        intro hmem
        exact (List.nodup_append.mp h).2.2 _ hmem _ (by simp) rfl
      have hnames : (imports.register link.decl.localName.id link.target link.module).localNames =
          imports.localNames ++ [(link.decl.localName.id, link.target)] := localNames_register hnew
      have hnodup : ((imports.register link.decl.localName.id link.target link.module).paths ++
          more.map Link.target).Nodup := by
        rw [paths, hnames]
        simpa [paths] using h
      have hmore := ih hnodup
      rw [hnames] at hmore
      simpa [addLinks] using hmore

/-- Links with different targets that are new keep all their targets in order. -/
lemma paths_addLinks {imports : Imports α} {links : List (Link α)}
    (h : (imports.paths ++ links.map Link.target).Nodup) :
    (imports.addLinks links).paths = imports.paths ++ links.map Link.target := by
  simp [paths, localNames_addLinks h, Function.comp_def]

/-- Links with different targets that are the first ones give all paths. -/
lemma paths_addLinks_empty (chain : ImportChain) {links : List (Link α)}
    (h : (links.map Link.target).Nodup) :
    ((Imports.empty chain).addLinks links).paths = links.map Link.target := by
  have hnone : (Imports.empty chain : Imports α).paths = [] := rfl
  rw [paths_addLinks (by rwa [hnone, List.nil_append]), hnone, List.nil_append]

/-- The chain of the imports has no part in what is registered. -/
lemma addLinks_with_chain (imports : Imports α) (chain : ImportChain) (links : List (Link α)) :
    { imports with chain := chain }.addLinks links =
      { imports.addLinks links with chain := chain } := by
  induction links generalizing imports with
  | nil => rfl
  | cons link more ih =>
      exact ih (imports.register link.decl.localName.id link.target link.module)

end Imports

end BriskModules
