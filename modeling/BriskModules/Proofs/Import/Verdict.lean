import BriskModules.Proofs.Import.Registry

/-!
The verdict on one import of a module, whatever the capability.

The check leaves compiling an imported module to a capability, which may be any at all: it has
a state of its own, answers from it as it likes, and need not come back. An import is refused
by itself, or its module is required once and the answer decides. What is right for an import
depends on the targets of the earlier imports that were accepted and on nothing else of the
past: a target that failed may be required again.

* `Capability`, `Served`: a way to require modules that has a state, and its answers to several
  inquiries;
* `Import.Requires`: when the module of an import is required;
* `Import.Fault`, `Import.FirstFault`: what each check finds wrong with an import, and which
  finding is its error;
* `Verdict`, `Verdict.Right`: what becomes of an import, and what has to become of it;
* `exists_right_of_checkImport`, `checkImport_of_right`: the check of one import gives the right
  verdict and no other.
-/

namespace BriskModules

variable {σ α : Type}

/-! ### Capabilities -/

/-- A capability to require a module at the end of a chain. It may change a state of its own,
and it may never come back. -/
abbrev Capability (σ α : Type) := ModulePath → ImportChain → StateT σ Option (CompileResult α)

/-- A module that is required for an import, and what the capability answers. -/
structure Inquiry (α : Type) where
  target : ModulePath
  answer : CompileResult α

/-- A capability answers several inquiries one after the other, from state to state. Each is
made at the end of the chain that is extended by its target. -/
inductive Served (require : Capability σ α) (chain : ImportChain) :
    σ → List (Inquiry α) → σ → Prop where
  | nil {state : σ} : Served require chain state [] state
  | cons {before middle after : σ} {inquiry : Inquiry α} {more : List (Inquiry α)}
      (answered : (require inquiry.target (chain.extend inquiry.target)).run before =
        some (inquiry.answer, middle))
      (rest : Served require chain middle more after) :
      Served require chain before (inquiry :: more) after

/-! ### Faults -/

/-- The order of the checks that an error comes from. -/
def ImportError.rank : ImportError → ℕ
  | .invalidPath .. => 0
  | .outsideRoot .. => 1
  | .cyclic .. => 2
  | .multiple .. => 3
  | .illegalWhitebox .. => 4
  | .cannotCompile .. => 5
  | .program .. => 6
  | .illegalInternal .. => 7

namespace Import

variable (current : ModulePath) (chain : ImportChain) (earlier : List ModulePath) (decl : Import)

/-- The module `target` is required for an import: its text leads there, the target is neither
in the chain nor the target of an earlier import that was accepted, and a whitebox import stays
in the package. -/
structure Requires (target : ModulePath) : Prop where
  resolves : resolveImport current decl.path = .ok target
  acyclic : target ∉ chain.modules
  single : target ∉ earlier
  whitebox : decl.whitebox = true → target.package = current.package

/-- What the checks of an import find wrong with it, each check by itself. The last three look
at what the capability answered, if the module was required at all. -/
inductive Fault (inquiry? : Option (Inquiry α)) : ImportError → Prop where
  | invalidPath {error : ImportPathError} (malformed : ImportPath.parse decl.path = .error error) :
      Fault inquiry? (.invalidPath decl.path error decl.pathLoc)
  | outsideRoot {path : ImportPath} {error : OutsideRoot}
      (parses : ImportPath.parse decl.path = .ok path)
      (leaves : path.resolve current = .error error) :
      Fault inquiry? (.outsideRoot error decl.pathLoc)
  | cyclic {target : ModulePath} (resolves : resolveImport current decl.path = .ok target)
      (running : target ∈ chain.modules) :
      Fault inquiry? (.cyclic target chain decl.pathLoc)
  | multiple {target : ModulePath} (resolves : resolveImport current decl.path = .ok target)
      (known : target ∈ earlier) :
      Fault inquiry? (.multiple target decl.pathLoc)
  | illegalWhitebox {target : ModulePath}
      (resolves : resolveImport current decl.path = .ok target) (whitebox : decl.whitebox = true)
      (foreign : target.package ≠ current.package) :
      Fault inquiry? (.illegalWhitebox target decl.pathLoc)
  | cannotCompile {target : ModulePath} {failure : CompileFailure}
      (answered : inquiry? = some ⟨target, .error failure⟩) :
      Fault inquiry? (.cannotCompile target failure decl.pathLoc)
  | program {target : ModulePath} {info : ModuleInfo α}
      (answered : inquiry? = some ⟨target, .ok info⟩) (program : info.isProgram = true) :
      Fault inquiry? (.program target decl.pathLoc)
  | illegalInternal {target : ModulePath} {info : ModuleInfo α}
      (answered : inquiry? = some ⟨target, .ok info⟩) (internal : info.isInternal = true)
      (foreign : target.package ≠ current.package) :
      Fault inquiry? (.illegalInternal target decl.pathLoc)

/-- What the first check that finds something wrong with an import finds. -/
structure FirstFault (inquiry? : Option (Inquiry α)) (error : ImportError) : Prop where
  fault : decl.Fault current chain earlier inquiry? error
  first : ∀ other, decl.Fault current chain earlier inquiry? other → error.rank ≤ other.rank

end Import

/-! ### Verdicts -/

/-- What becomes of an import: it is refused before its module is required, it fails on the
answer, or it is accepted as a link. -/
inductive Verdict (α : Type) where
  | refused (decl : Import) (error : ImportError)
  | failed (decl : Import) (inquiry : Inquiry α) (error : ImportError)
  | accepted (link : Link α)

namespace Verdict

/-- The import. -/
def decl : Verdict α → Import
  | .refused decl _ | .failed decl _ _ => decl
  | .accepted link => link.decl

/-- What has been required for the import. -/
def inquiry? : Verdict α → Option (Inquiry α)
  | .refused .. => none
  | .failed _ inquiry _ => some inquiry
  | .accepted link => some ⟨link.target, .ok link.module⟩

/-- The error of an import that fails. -/
def error? : Verdict α → Option ImportError
  | .refused _ error | .failed _ _ error => some error
  | .accepted _ => none

/-- The link that is made of an import that is accepted. -/
def link? : Verdict α → Option (Link α)
  | .refused .. | .failed .. => none
  | .accepted link => some link

/-- The targets of the imports that are accepted. -/
def targets (verdicts : List (Verdict α)) : List ModulePath :=
  (verdicts.filterMap link?).map Link.target

/-- A verdict is right if the module has been required exactly where the import requires it,
and the error is what the first check with a finding finds. -/
structure Right (current : ModulePath) (chain : ImportChain) (earlier : List ModulePath)
    (verdict : Verdict α) : Prop where
  asked : ∀ target, (∃ answer, verdict.inquiry? = some ⟨target, answer⟩) ↔
    verdict.decl.Requires current chain earlier target
  blamed : ∀ error, verdict.error? = some error ↔
    verdict.decl.FirstFault current chain earlier verdict.inquiry? error

end Verdict

/-! ### The check of one import -/

section Check

variable {require : Capability σ α} {current target : ModulePath} {chain : ImportChain}
  {earlier : List ModulePath} {decl : Import} {inquiry? : Option (Inquiry α)}
  {error other : ImportError} {imports : Imports α} {before after : σ}

/-- There is only one first finding. -/
lemma Import.FirstFault.unique (h : decl.FirstFault current chain earlier inquiry? error)
    (h' : decl.FirstFault current chain earlier inquiry? other) : error = other := by
  have hrank : error.rank = other.rank :=
    le_antisymm (h.first other h'.fault) (h'.first error h.fault)
  have hfault := h.fault
  have hfault' := h'.fault
  -- of two findings of one check, both tell of the same text, target or answer
  cases hfault <;> cases hfault' <;> cases hrank <;> simp_all

lemma parse_of_resolveImport {text : String} (h : resolveImport current text = .ok target) :
    ∃ path, ImportPath.parse text = .ok path ∧ path.resolve current = .ok target := by
  unfold resolveImport at h
  cases hparse : ImportPath.parse text with
  | error fault => simp [hparse] at h
  | ok path =>
      refine ⟨path, rfl, ?_⟩
      cases hresolve : path.resolve current with
      | error fault => simp [hparse, hresolve] at h
      | ok found => simpa [hparse, hresolve] using h

/-- The target that is to be required is the one that the import requires. -/
lemma importTarget_eq_ok_iff_requires
    (hearlier : ∀ path, imports.contains path = true ↔ path ∈ earlier) :
    importTarget decl current imports = .ok target ↔
      decl.Requires current imports.chain earlier target := by
  rw [importTarget_eq_ok_iff, ← Bool.not_eq_true, hearlier]
  exact ⟨fun ⟨h₁, h₂, h₃, h₄⟩ => ⟨h₁, h₂, h₃, h₄⟩, fun ⟨h₁, h₂, h₃, h₄⟩ => ⟨h₁, h₂, h₃, h₄⟩⟩

/-- An import whose module is not required is refused for its first fault. -/
lemma firstFault_of_importTarget
    (hearlier : ∀ path, imports.contains path = true ↔ path ∈ earlier)
    (h : importTarget decl current imports = .error error) :
    decl.FirstFault current imports.chain earlier (none : Option (Inquiry α)) error := by
  rw [importTarget_eq] at h
  cases hparse : ImportPath.parse decl.path with
  | error fault =>
      rw [hparse] at h
      obtain rfl := Except.error.inj h
      exact ⟨.invalidPath hparse, fun other _ => Nat.zero_le _⟩
  | ok path =>
      simp only [hparse] at h
      cases hresolve : path.resolve current with
      | error fault =>
          rw [hresolve] at h
          obtain rfl := Except.error.inj h
          refine ⟨.outsideRoot hparse hresolve, fun other hother => ?_⟩
          cases hother <;> simp_all [ImportError.rank]
      | ok target =>
          have hresolves : resolveImport current decl.path = .ok target := by
            simp [resolveImport, hparse, hresolve]
          simp only [hresolve] at h
          split_ifs at h with hchain hknown hwhitebox
          · obtain rfl := Except.error.inj h
            refine ⟨.cyclic hresolves hchain, fun other hother => ?_⟩
            cases hother <;> simp_all [ImportError.rank]
          · obtain rfl := Except.error.inj h
            refine ⟨.multiple hresolves ((hearlier target).mp hknown), fun other hother => ?_⟩
            cases hother <;> simp_all [ImportError.rank]
          · obtain rfl := Except.error.inj h
            refine ⟨.illegalWhitebox hresolves hwhitebox.1 hwhitebox.2, fun other hother => ?_⟩
            cases hother <;> simp_all [ImportError.rank]

/-- If the module of an import is required, all faults of the import are in the answer. -/
lemma Import.Requires.le_rank (h : decl.Requires current chain earlier target)
    (hfault : decl.Fault current chain earlier inquiry? error) : 5 ≤ error.rank := by
  obtain ⟨hresolves, hacyclic, hsingle, hwhitebox⟩ := h
  obtain ⟨path, hparse, hresolve⟩ := parse_of_resolveImport hresolves
  cases hfault <;> simp_all [ImportError.rank]

/-- An import whose module is required and that fails does so for the first fault. -/
lemma Import.Requires.firstFault {answer : CompileResult α}
    (h : decl.Requires current chain earlier target)
    (haccept : accept decl current target answer = .error error) :
    decl.FirstFault current chain earlier (some ⟨target, answer⟩) error := by
  cases answer with
  | error failure =>
      obtain rfl := Except.error.inj haccept
      exact ⟨.cannotCompile rfl, fun other => h.le_rank⟩
  | ok info =>
      simp only [accept] at haccept
      split_ifs at haccept with hprogram hinternal
      · obtain rfl := Except.error.inj haccept
        refine ⟨.program rfl hprogram, fun other hother => ?_⟩
        have hrank := h.le_rank hother
        cases hother <;> simp_all [ImportError.rank]
      · obtain rfl := Except.error.inj haccept
        refine ⟨.illegalInternal rfl hinternal.1 hinternal.2, fun other hother => ?_⟩
        have hrank := h.le_rank hother
        cases hother <;> simp_all [ImportError.rank]

/-- An import whose module is required and that is accepted has no fault. -/
lemma Import.Requires.not_fault {info : ModuleInfo α}
    (h : decl.Requires current chain earlier target)
    (himportable : Importable current target info) :
    ¬ decl.Fault current chain earlier (some ⟨target, .ok info⟩) error := by
  intro hfault
  have hrank := h.le_rank hfault
  obtain ⟨hprogram, hinternal⟩ := importable_iff.mp himportable
  cases hfault <;> simp_all [ImportError.rank]

/-- A verdict on an import, as what its check returns. -/
def Verdict.outcome : Verdict α → Except ImportError (ModulePath × ModuleInfo α)
  | .refused _ error | .failed _ _ error => .error error
  | .accepted link => .ok (link.target, link.module)

/-- An error that is the first fault is the only one. -/
lemma Verdict.blamed_of_firstFault {verdict : Verdict α} (herror : verdict.error? = some error)
    (h : verdict.decl.FirstFault current chain earlier verdict.inquiry? error) :
    ∀ other, verdict.error? = some other ↔
      verdict.decl.FirstFault current chain earlier verdict.inquiry? other := by
  intro other
  rw [herror, Option.some.injEq]
  exact ⟨fun heq => heq ▸ h, fun hother => h.unique hother⟩

lemma checkImport_of_refused (h : importTarget decl current imports = .error error) :
    (checkImport current require decl imports).run before = some (.error error, before) := by
  rw [checkImport, h]
  rfl

lemma checkImport_of_requires
    (hearlier : ∀ path, imports.contains path = true ↔ path ∈ earlier)
    (h : decl.Requires current imports.chain earlier target) :
    (checkImport current require decl imports).run before =
      ((require target (imports.chain.extend target)).run before).map fun (answer, after) =>
        ((accept decl current target answer).map (target, ·), after) := by
  rw [checkImport, (importTarget_eq_ok_iff_requires hearlier).mpr h]
  simp only [StateT.run_bind, Option.bind_eq_bind, StateT.run_pure, Option.pure_def]
  cases (require target (imports.chain.extend target)).run before <;> rfl

/-- The check of one import gives the right verdict on it. -/
lemma exists_right_of_checkImport
    (hearlier : ∀ path, imports.contains path = true ↔ path ∈ earlier)
    {outcome : Except ImportError (ModulePath × ModuleInfo α)}
    (h : (checkImport current require decl imports).run before = some (outcome, after)) :
    ∃ verdict : Verdict α, verdict.decl = decl ∧
      verdict.Right current imports.chain earlier ∧
        Served require imports.chain before verdict.inquiry?.toList after ∧
          verdict.outcome = outcome := by
  cases htarget : importTarget decl current imports with
  | error error =>
      rw [checkImport_of_refused htarget, Option.some.injEq, Prod.mk.injEq] at h
      obtain ⟨rfl, rfl⟩ := h
      refine ⟨.refused decl error, rfl, ⟨fun target => ?_, ?_⟩, .nil, rfl⟩
      · rw [Verdict.decl, ← importTarget_eq_ok_iff_requires hearlier, htarget]
        simp [Verdict.inquiry?]
      · exact Verdict.blamed_of_firstFault rfl (firstFault_of_importTarget hearlier htarget)
  | ok target =>
      have hrequires := (importTarget_eq_ok_iff_requires hearlier).mp htarget
      have hasked : ∀ (answer : CompileResult α) other,
          (∃ answer', some (Inquiry.mk target answer) = some ⟨other, answer'⟩) ↔
            decl.Requires current imports.chain earlier other := by
        intro answer other
        rw [← importTarget_eq_ok_iff_requires hearlier, htarget]
        simp
      rw [checkImport_of_requires hearlier hrequires, Option.map_eq_some_iff] at h
      obtain ⟨⟨answer, middle⟩, hanswered, houtcome⟩ := h
      obtain ⟨rfl, rfl⟩ := Prod.mk.inj houtcome
      cases haccept : accept decl current target answer with
      | error error =>
          exact ⟨.failed decl ⟨target, answer⟩ error, rfl,
            ⟨hasked answer, Verdict.blamed_of_firstFault rfl (hrequires.firstFault haccept)⟩,
            .cons hanswered .nil, rfl⟩
      | ok info =>
          obtain ⟨rfl, himportable⟩ := accept_eq_ok_iff.mp haccept
          refine ⟨.accepted ⟨decl, target, info⟩, rfl, ⟨hasked (.ok info), fun error => ?_⟩,
            .cons hanswered .nil, rfl⟩
          simp only [Verdict.error?, reduceCtorEq, false_iff]
          exact fun hfirst => hrequires.not_fault himportable hfirst.fault

/-- The right verdict on an import is the one that its check gives. -/
lemma checkImport_of_right (hearlier : ∀ path, imports.contains path = true ↔ path ∈ earlier)
    {verdict : Verdict α} (hright : verdict.Right current imports.chain earlier)
    (hserved : Served require imports.chain before verdict.inquiry?.toList after) :
    (checkImport current require verdict.decl imports).run before =
      some (verdict.outcome, after) := by
  obtain ⟨hasked, hblamed⟩ := hright
  cases verdict with
  | refused decl error =>
      cases hserved
      cases htarget : importTarget decl current imports with
      | ok target =>
          have hrequires := (importTarget_eq_ok_iff_requires hearlier).mp htarget
          obtain ⟨answer, hanswer⟩ := (hasked target).mpr hrequires
          cases hanswer
      | error other =>
          have hother := (hblamed other).mpr (firstFault_of_importTarget hearlier htarget)
          rw [Verdict.decl, checkImport_of_refused htarget, Verdict.outcome,
            Option.some.inj hother]
  | failed decl inquiry error =>
      obtain ⟨target, answer⟩ := inquiry
      have hrequires : decl.Requires current imports.chain earlier target :=
        (hasked target).mp ⟨answer, rfl⟩
      have haccept : accept decl current target answer = .error error := by
        cases haccept : accept decl current target answer with
        | ok info =>
            obtain ⟨rfl, himportable⟩ := accept_eq_ok_iff.mp haccept
            exact absurd ((hblamed error).mp rfl).fault (hrequires.not_fault himportable)
        | error other =>
            rw [Option.some.inj ((hblamed other).mpr (hrequires.firstFault haccept))]
      obtain _ | ⟨hanswered, _ | _⟩ := hserved
      rw [Verdict.decl, checkImport_of_requires hearlier hrequires, hanswered]
      simp [haccept, Verdict.outcome, Except.map]
  | accepted link =>
      obtain ⟨decl, target, info⟩ := link
      have hrequires : decl.Requires current imports.chain earlier target :=
        (hasked target).mp ⟨.ok info, rfl⟩
      have haccept : accept decl current target (.ok info) = .ok info := by
        cases haccept : accept decl current target (.ok info) with
        | ok other => rw [Except.ok.inj (accept_eq_ok_iff.mp haccept).1]
        | error other => cases (hblamed other).mpr (hrequires.firstFault haccept)
      obtain _ | ⟨hanswered, _ | _⟩ := hserved
      rw [Verdict.decl, checkImport_of_requires hearlier hrequires, hanswered]
      simp [haccept, Verdict.outcome, Except.map]

/-- The check of one import does not come back iff the capability does not. -/
lemma checkImport_eq_none_iff
    (hearlier : ∀ path, imports.contains path = true ↔ path ∈ earlier) :
    (checkImport current require decl imports).run before = none ↔
      ∃ target, decl.Requires current imports.chain earlier target ∧
        (require target (imports.chain.extend target)).run before = none := by
  constructor
  · intro h
    cases htarget : importTarget decl current imports with
    | error error =>
        rw [checkImport_of_refused htarget] at h
        cases h
    | ok target =>
        have hrequires := (importTarget_eq_ok_iff_requires hearlier).mp htarget
        rw [checkImport_of_requires hearlier hrequires, Option.map_eq_none_iff] at h
        exact ⟨target, hrequires, h⟩
  · rintro ⟨target, hrequires, h⟩
    rw [checkImport_of_requires hearlier hrequires, h]
    rfl

end Check

end BriskModules
