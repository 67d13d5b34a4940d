import BriskModules.Proofs.Graph.Making

/-!
Which modules compile, apart from caches, chains and orders.

A module compiles if its file is found and parsed, all of its imports are admissible links
to different modules that compile, its exports can be inferred, and the frontend accepts it. What
is recorded of it is told by its unit and by the modules that it imports. This is the least such
relation, so a module on a cycle of imports does not compile.

* `Compiler.Compiles`: a module compiles, and what it is then;
* `Compiles.unique`: there is only one thing it can be;
* `Compiler.Edge`: the file of a module has an import that leads to another one;
* `not_compiles_of_cycle`: a module on a cycle does not compile.
-/

namespace BriskModules

variable {α : Type}

/-- The check of a frontend does not look at the chain of the imports. -/
def Frontend.ChainFree (frontend : Frontend α) : Prop :=
  ∀ unit (imports : Imports α) chain exports,
    frontend.check unit { imports with chain := chain } exports =
      frontend.check unit imports exports

lemma Frontend.chainFree_syntaxTrees : syntaxTrees.ChainFree :=
  fun _ _ _ _ => rfl

namespace Compiler

variable (compiler : Compiler α) (fs : Filesystem)

/-- A module compiles: its file is found, and it is made, apart from any chain, of the unit in this
file and of links to modules that compile. The links are admissible and lead to different modules,
and there is one for each import of the unit. -/
inductive Compiles : ModulePath → ModuleInfo α → Prop where
  | intro {path : ModulePath} {unit : CompilationUnit} {links : List (Link α)}
      {info : ModuleInfo α} (located : compiler.locate fs path = .ok info.file)
      (made : compiler.Makes fs path .empty unit links info)
      (compiled : ∀ link ∈ links, Compiles link.target link.module) : Compiles path info

/-- The file of a module has an import that leads to another module. -/
def Edge (path target : ModulePath) : Prop :=
  ∃ file unit, compiler.locate fs path = .ok file ∧ compiler.Parses fs path file unit ∧
    ∃ decl ∈ unit.imports, resolveImport path decl.path = .ok target

variable {compiler fs} {path target : ModulePath} {info info' : ModuleInfo α}

/-- What a unit and links make does not depend on the chain if the frontend does not look at
it. -/
lemma Makes.of_chainFree {chain : ImportChain} {unit : CompilationUnit} {links : List (Link α)}
    (hfree : compiler.frontend.ChainFree) (h : compiler.Makes fs path chain unit links info)
    (chain' : ImportChain) : compiler.Makes fs path chain' unit links info := by
  have himports : ((Imports.empty chain').addLinks links : Imports α) =
      { (Imports.empty chain).addLinks links with chain := chain' } :=
    Imports.addLinks_with_chain (Imports.empty chain) chain' links
  refine ⟨h.parses, h.declared, h.nodup, h.admissible, h.records, ?_, ?_⟩
  · rw [himports]
    exact h.exported
  · rw [himports, hfree]
    exact h.accepted

/-- Admissible links of the same imports are the same if they lead to the same modules. -/
lemma links_unique {links links' : List (Link α)}
    (hdecls : links.map Link.decl = links'.map Link.decl)
    (hadmissible : ∀ link ∈ links, link.Admissible path)
    (hadmissible' : ∀ link ∈ links', link.Admissible path)
    (hmodule : ∀ link ∈ links, ∀ link' ∈ links', link.target = link'.target →
      link.module = link'.module) : links = links' := by
  induction links generalizing links' with
  | nil => exact (List.map_eq_nil_iff.mp hdecls.symm).symm
  | cons link more ih =>
      cases links' with
      | nil => simp at hdecls
      | cons link' more' =>
          obtain ⟨hdecl, hmore⟩ := List.cons.inj hdecls
          have htarget : link.target = link'.target := by
            have hresolves := (hadmissible link List.mem_cons_self).resolves
            have hresolves' := (hadmissible' link' List.mem_cons_self).resolves
            rw [hdecl] at hresolves
            exact Except.ok.inj (hresolves.symm.trans hresolves')
          have hinfo := hmodule link List.mem_cons_self link' List.mem_cons_self htarget
          have hrest := ih hmore (fun l hl => hadmissible l (List.mem_cons_of_mem _ hl))
            (fun l hl => hadmissible' l (List.mem_cons_of_mem _ hl))
            fun l hl l' hl' => hmodule l (List.mem_cons_of_mem _ hl) l' (List.mem_cons_of_mem _ hl')
          obtain ⟨decl, target, module⟩ := link
          obtain ⟨decl', target', module'⟩ := link'
          simp only at hdecl htarget hinfo
          rw [hdecl, htarget, hinfo, hrest]

/-- A module that compiles is one thing only. -/
theorem Compiles.unique (h : compiler.Compiles fs path info)
    (h' : compiler.Compiles fs path info') : info = info' := by
  induction h generalizing info' with
  | intro located made compiled ih =>
      cases h' with
      | intro located' made' compiled' =>
          have hfile := Except.ok.inj (located.symm.trans located')
          obtain rfl := made.parses.unique (hfile ▸ made'.parses)
          obtain rfl := links_unique (made.declared.trans made'.declared.symm) made.admissible
            made'.admissible fun link hlink link' hlink' htarget =>
              ih link hlink (htarget ▸ compiled' link' hlink')
          exact made.unique made' hfile

/-- No infinite path of imports starts at a module that compiles. -/
lemma Compiles.acc (h : compiler.Compiles fs path info) :
    Acc (fun target path => compiler.Edge fs path target) path := by
  induction h with
  | intro located made compiled ih =>
      refine Acc.intro _ fun target hedge => ?_
      obtain ⟨file', unit', located', parses', decl, hdecl, hresolve⟩ := hedge
      obtain rfl := Except.ok.inj (located.symm.trans located')
      obtain rfl := made.parses.unique parses'
      rw [← made.declared] at hdecl
      obtain ⟨link, hlink, rfl⟩ := List.mem_map.mp hdecl
      have htarget := (made.admissible link hlink).resolves.symm.trans hresolve
      rw [← Except.ok.inj htarget]
      exact ih link hlink

/-- A module on a cycle of imports does not compile. -/
lemma not_compiles_of_cycle (hcycle : Relation.TransGen (compiler.Edge fs) path path) :
    ¬ compiler.Compiles fs path info := by
  intro h
  have hswap : Relation.TransGen (fun target path => compiler.Edge fs path target) path path :=
    Relation.transGen_swap.mpr hcycle
  have hirrefl : ∀ {module : ModulePath},
      Acc (Relation.TransGen fun target path => compiler.Edge fs path target) module →
        ¬ Relation.TransGen (fun target path => compiler.Edge fs path target) module module := by
    intro module hacc
    induction hacc with
    | intro module _ ih => exact fun hself => ih module hself hself
  exact hirrefl h.acc.transGen hswap

end Compiler

end BriskModules
