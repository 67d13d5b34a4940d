import BriskModules.Proofs.Import.Trial

/-!
What a capability answers when all imports of a module are accepted.

A check that accepts all imports has asked for each of them once, in their order, and the
registered modules are the answers.

* `Answers`: the links that a capability makes of several imports, from state to state;
* `answers_of_checkImports`: what is known of the answers if all imports are accepted.
-/

namespace BriskModules

variable {σ α : Type}

/-- The links that a capability makes of several imports: each is required where its text
leads, and the compiled module is the answer. -/
inductive Answers (require : Capability σ α) (current : ModulePath) (chain : ImportChain) :
    List Import → σ → List (Link α) → σ → Prop where
  | nil {state : σ} : Answers require current chain [] state [] state
  | cons {decl : Import} {more : List Import} {target : ModulePath} {info : ModuleInfo α}
      {links : List (Link α)} {before middle after : σ}
      (resolves : resolveImport current decl.path = .ok target)
      (answered : (require target (chain.extend target)).run before = some (.ok info, middle))
      (rest : Answers require current chain more middle links after) :
      Answers require current chain (decl :: more) before (⟨decl, target, info⟩ :: links) after

namespace Answers

variable {require : Capability σ α} {current : ModulePath} {chain : ImportChain}
  {decls : List Import} {links : List (Link α)} {before after : σ}

/-- There is one link for each import. -/
lemma map_decl (h : Answers require current chain decls before links after) :
    links.map Link.decl = decls := by
  induction h with
  | nil => rfl
  | cons _ _ _ ih => rw [List.map_cons, ih]

/-- Every link leads where the text of its import leads. -/
lemma resolves (h : Answers require current chain decls before links after) :
    ∀ link ∈ links, resolveImport current link.decl.path = .ok link.target := by
  induction h with
  | nil => simp
  | cons resolves _ _ ih => exact List.forall_mem_cons.mpr ⟨resolves, ih⟩

end Answers

/-- A trial that accepts all imports makes links of them. -/
lemma Trial.answers {require : Capability σ α} {current : ModulePath} {chain : ImportChain}
    {earlier : List ModulePath} {decls : List Import} {links : List (Link α)} {before after : σ}
    (h : Trial require current chain earlier decls before (links.map .accepted) after) :
    Answers require current chain decls before links after := by
  induction links generalizing earlier decls before with
  | nil =>
      obtain ⟨rfl, -, hserved⟩ := h
      cases hserved
      exact .nil
  | cons link more ih =>
      cases decls with
      | nil => cases h.each
      | cons decl rest =>
          obtain ⟨verdict, verdicts, middle, hverdicts, rfl, hright, hserved, hrest⟩ :=
            trial_cons_iff.mp h
          obtain ⟨rfl, rfl⟩ := List.cons.inj hverdicts
          have hrequires := (hright.asked link.target).mp ⟨.ok link.module, rfl⟩
          obtain _ | ⟨hanswered, _ | _⟩ := hserved
          exact .cons hrequires.resolves hanswered (ih hrest)

/-- What is registered when all imports of a unit are accepted is what the capability answered
to each of them, and no target comes twice. -/
lemma answers_of_checkImports {unit : CompilationUnit} {current : ModulePath}
    {chain : ImportChain} {require : Capability σ α} {imports : Imports α} {before after : σ}
    (h : (checkImports unit current chain require).run before = some (.ok imports, after)) :
    ∃ links, Answers require current chain unit.imports before links after ∧
      imports = (Imports.empty chain).addLinks links ∧ (links.map Link.target).Nodup := by
  obtain ⟨verdicts, htrial, hresult⟩ := checkImports_eq_some_iff.mp h
  cases hresult with
  | @passed links _ accepted holds =>
      subst accepted
      exact ⟨links, htrial.answers, holds.eq_addLinks, holds.distinct⟩

end BriskModules
