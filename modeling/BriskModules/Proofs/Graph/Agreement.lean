import BriskModules.Proofs.Graph.Compilable
import BriskModules.Proofs.Graph.Record
import BriskModules.Proofs.Graph.Results

/-!
What is in the cache does not depend on the order of requests.

Failures are in the cache as well, also that of a module that was reached over a cycle of
imports. They are right all the same: the chain in which a module is required is a path of
imports, so a module with an import in the chain is on a cycle and compiles in no order.

* `Compiler.Right`: a result of a module is the one that it has apart from all caches;
* `Followed`: the chain in which a module is required is a path of imports;
* `Checks.accepts`: the imports of a module that compiles are accepted;
* `Compilation.right`, `bears_right`: a module gets its right result if all others have theirs;
* `Compiler.Direct`: requests that do not mix up files and chains;
* `agreement_of_performAll`: the results are right whatever has been requested.
-/

namespace BriskModules

variable {α : Type}

namespace Compiler

variable (compiler : Compiler α) (fs : Filesystem)

/-- A result is right if it is a module that compiles to just that, or a failure of a module
that does not compile. -/
def Right (path : ModulePath) : CompileResult α → Prop
  | .ok info => compiler.Compiles fs path info
  | .error _ => ∀ info, ¬ compiler.Compiles fs path info

/-- A module is required in a chain that follows the imports and ends with it. -/
structure Followed (chain : ImportChain) (path : ModulePath) : Prop where
  edges : chain.modules.IsChain (compiler.Edge fs)
  last : chain.modules.getLast? = some path

variable {compiler fs} {path target : ModulePath} {chain : ImportChain}
  {result : CompileResult α} {info : ModuleInfo α}

/-- A right result is a module iff the module compiles. -/
lemma Right.eq_ok_iff (h : compiler.Right fs path result) :
    result = .ok info ↔ compiler.Compiles fs path info := by
  cases result with
  | error failure =>
      constructor
      · intro heq
        cases heq
      · intro hcompiles
        exact absurd hcompiles (h info)
  | ok found =>
      constructor
      · intro heq
        exact Except.ok.inj heq ▸ h
      · intro hcompiles
        have hfound : compiler.Compiles fs path found := h
        rw [hfound.unique hcompiles]

lemma followed_root (path : ModulePath) : compiler.Followed fs (.root path) path :=
  ⟨List.isChain_singleton path, rfl⟩

/-- A chain that follows the imports goes on with an import of its last module. -/
lemma Followed.extend (h : compiler.Followed fs chain path)
    (hedge : compiler.Edge fs path target) :
    compiler.Followed fs (chain.extend target) target := by
  refine ⟨?_, by simp⟩
  rw [ImportChain.modules_extend, List.isChain_append]
  refine ⟨h.edges, List.isChain_singleton target, fun first hfirst last hlast => ?_⟩
  rw [h.last] at hfirst
  obtain rfl := Option.some.inj hfirst
  obtain rfl := Option.some.inj hlast
  exact hedge

/-- Imports lead from each module of the chain to its last one. -/
lemma Followed.reaches (h : compiler.Followed fs chain path) (htarget : target ∈ chain.modules) :
    Relation.ReflTransGen (compiler.Edge fs) target path := by
  refine List.IsChain.backwards_induction
    (fun module => Relation.ReflTransGen (compiler.Edge fs) module path) _ h.edges
    (fun _ _ hfirst hrest => hrest.head hfirst) (fun hne => ?_) target htarget
  have hlast := h.last
  rw [List.getLast?_eq_some_getLast hne, Option.some.injEq] at hlast
  rw [hlast]

/-- A module with an import in its chain is on a cycle, and does not compile. -/
lemma Followed.not_compiles (h : compiler.Followed fs chain path)
    (hedge : compiler.Edge fs path target) (htarget : target ∈ chain.modules) :
    ¬ compiler.Compiles fs path info :=
  not_compiles_of_cycle (Relation.TransGen.head' hedge (h.reaches htarget))

end Compiler

/-! ### Checking imports -/

section Checks

variable {compiler : Compiler α} {fs : Filesystem} {requires : Requiring α}
  {current : ModulePath} {imports imports' : Imports α} {errors : List ImportError}
  {before after : Session α (Journal α)}

/-- Links to modules that compile are all accepted, if none leads back into the chain: the
results that the cache gets on the way are right, so they are the modules of the links. -/
lemma Checks.accepts {chain : ImportChain} (hchain : imports.chain = chain)
    (hreliable : requires.Reliable) {links : List (Link α)}
    (hadmissible : ∀ link ∈ links, link.Admissible current)
    (hcompiled : ∀ link ∈ links, compiler.Compiles fs link.target link.module)
    (hnodup : (links.map Link.target).Nodup)
    (hnew : ∀ link ∈ links, link.target ∉ chain.modules ∧
      imports.contains link.target = false)
    (hafter : after.Holds fun _ path result => compiler.Right fs path result)
    (h : Checks requires current (links.map Link.decl) imports before imports' errors after) :
    errors = [] ∧ imports' = imports.addLinks links := by
  induction links generalizing imports before errors with
  | nil =>
      cases h with
      | nil => exact ⟨rfl, rfl⟩
  | cons link more ih =>
      obtain ⟨hresolves, hwhitebox, himportable⟩ := hadmissible link List.mem_cons_self
      obtain ⟨hnotin, hcontains⟩ := hnew link List.mem_cons_self
      have htarget : importTarget link.decl current imports = .ok link.target :=
        importTarget_eq_ok_iff.mpr ⟨hresolves, hchain ▸ hnotin, hcontains, hwhitebox⟩
      have hresult : ∀ {result : CompileResult α},
          after.cache.cells[link.target]? = some (.done result) → result = .ok link.module := by
        intro result hstored
        exact (hafter _ _ hstored).eq_ok_iff.mpr (hcompiled link List.mem_cons_self)
      cases h with
      | refused untargeted =>
          rw [htarget] at untargeted
          cases untargeted
      | unaccepted targeted required unaccepted rest =>
          obtain rfl := Except.ok.inj (htarget.symm.trans targeted)
          obtain rfl := hresult ((rest.grows hreliable).keeps _ _ (hreliable.stored required))
          rw [accept_eq_ok_iff.mpr ⟨rfl, himportable⟩] at unaccepted
          cases unaccepted
      | registered targeted required importable rest =>
          obtain rfl := Except.ok.inj (htarget.symm.trans targeted)
          obtain rfl := Except.ok.inj
            (hresult ((rest.grows hreliable).keeps _ _ (hreliable.stored required)))
          obtain ⟨hfirst, hmore⟩ := List.nodup_cons.mp hnodup
          refine ih (by rw [Imports.chain_register, hchain])
            (fun link hlink => hadmissible link (List.mem_cons_of_mem _ hlink))
            (fun link hlink => hcompiled link (List.mem_cons_of_mem _ hlink)) hmore
            (fun other hother => ⟨(hnew other (List.mem_cons_of_mem _ hother)).1, ?_⟩) rest
          rw [← Bool.not_eq_true, Imports.contains_register, not_or]
          refine ⟨fun heq => hfirst (heq ▸ List.mem_map_of_mem hother), ?_⟩
          simpa using (hnew other (List.mem_cons_of_mem _ hother)).2

end Checks

/-! ### Compiling modules -/

namespace Compiler

variable {compiler : Compiler α} {fs : Filesystem} {requires : Requiring α}
  {path : ModulePath} {chain : ImportChain} {file : FileName}
  {before after : Session α (Journal α)}

/-- A module that compiles has just the unit in its file. -/
lemma Compiles.parses {info : ModuleInfo α} (h : compiler.Compiles fs path info)
    (hlocate : compiler.locate fs path = .ok file) :
    ∃ unit, compiler.Parses fs path file unit := by
  cases h with
  | intro located made =>
      obtain rfl := Except.ok.inj (located.symm.trans hlocate)
      exact ⟨_, made.parses⟩

/-- The imports of a module that compiles are registered as its links, after which its
exports are inferred and the frontend accepts it. -/
lemma Compiles.completes {info : ModuleInfo α} (h : compiler.Compiles fs path info)
    (hfree : compiler.frontend.ChainFree) (hreliable : requires.Reliable)
    (hfollowed : compiler.Followed fs chain path) (hlocate : compiler.locate fs path = .ok file)
    {unit : CompilationUnit} (hparses : compiler.Parses fs path file unit)
    {imports : Imports α} {errors : List ImportError}
    (hafter : after.Holds fun _ path result => compiler.Right fs path result)
    (hchecks : Checks requires path unit.imports (.empty chain) before imports errors after) :
    errors = [] ∧
      inferExports unit path (.ofUnit unit) (.collect unit imports) imports.internal =
        .ok info.exports ∧
      compiler.frontend.check unit imports info.exports = .ok info.checked := by
  have hcompiles := h
  cases h with
  | @intro _ unit' links _ located made compiled =>
      obtain rfl := Except.ok.inj (located.symm.trans hlocate)
      obtain rfl := made.parses.unique hparses
      have hnew : ∀ link ∈ links, link.target ∉ chain.modules ∧
          (Imports.empty chain : Imports α).contains link.target = false := by
        intro link hlink
        have hdecl : link.decl ∈ unit'.imports := made.declared ▸ List.mem_map_of_mem hlink
        have hedge : compiler.Edge fs path link.target :=
          ⟨info.file, unit', located, hparses, link.decl, hdecl,
            (made.admissible link hlink).resolves⟩
        exact ⟨fun htarget => hfollowed.not_compiles hedge htarget hcompiles,
          Imports.contains_empty _ _⟩
      rw [← made.declared] at hchecks
      obtain ⟨herrors, rfl⟩ := hchecks.accepts rfl hreliable made.admissible compiled made.nodup
        hnew hafter
      have hchained := made.of_chainFree hfree chain
      exact ⟨herrors, hchained.exported, hchained.accepted⟩

/-- A module gets its right result in a chain that follows the imports, if all other results are
right. -/
lemma Compilation.right (hfree : compiler.frontend.ChainFree) (hreliable : requires.Reliable)
    (hfollowed : compiler.Followed fs chain path) (hlocate : compiler.locate fs path = .ok file)
    {result : CompileResult α}
    (h : compiler.Compilation fs requires path chain file before result after)
    (hafter : after.Holds fun _ path result => compiler.Right fs path result) :
    compiler.Right fs path result := by
  have hwhole := h
  cases h with
  | unreadable read =>
      intro info hcompiles
      obtain ⟨unit, text, hread, -⟩ := hcompiles.parses hlocate
      rw [read] at hread
      cases hread
  | unparsed read parsed =>
      intro info hcompiles
      obtain ⟨unit, text, hread, hparse⟩ := hcompiles.parses hlocate
      obtain rfl := Except.ok.inj (read.symm.trans hread)
      rw [parsed] at hparse
      cases hparse
  | refused parses checks wrong =>
      intro info hcompiles
      exact wrong (hcompiles.completes hfree hreliable hfollowed hlocate parses
        (Session.holds_noted.mp hafter) checks).1
  | leaking parses checks exported =>
      intro info hcompiles
      obtain ⟨-, hexported, -⟩ := hcompiles.completes hfree hreliable hfollowed hlocate parses
        hafter checks
      rw [exported] at hexported
      cases hexported
  | illTyped parses checks exported refused =>
      intro info hcompiles
      obtain ⟨-, hexported, haccepted⟩ := hcompiles.completes hfree hreliable hfollowed hlocate
        parses (Session.holds_noted.mp hafter) checks
      rw [← Except.ok.inj (exported.symm.trans hexported), refused] at haccepted
      cases haccepted
  | completed =>
      obtain ⟨hfile, unit, links, hmakes, hstored⟩ := hwhole.makes hreliable
      exact .intro (hfile ▸ hlocate) (hmakes.of_chainFree hfree .empty)
        fun link hlink => hafter _ _ (hstored link hlink)

variable (fs) in
/-- Compilations in chains that follow the imports pass on that all results are right. -/
lemma bears_right (hfree : compiler.frontend.ChainFree) : compiler.Bears fs
    (fun path chain file => compiler.Followed fs chain path ∧ compiler.locate fs path = .ok file)
    (fun _ path result => compiler.Right fs path result) where
  lasting := fun _ _ _ hright => hright
  missing := by
    intro _ path failure hlocate info hcompiles
    cases hcompiles with
    | intro located =>
        rw [hlocate] at located
        cases located
  next := by
    rintro path chain file unit decl target file' ⟨hfollowed, hlocate⟩ hparses hdecl hresolve
      hlocate'
    exact ⟨hfollowed.extend ⟨file, unit, hlocate, hparses, decl, hdecl, hresolve⟩, hlocate'⟩
  compiled := by
    rintro requires path chain file before result after hreliable ⟨hfollowed, hlocate⟩ h hafter
    exact h.right hfree hreliable hfollowed hlocate hafter

variable (compiler fs) in
/-- A request is direct if it starts a chain of its own and a file that it names is the one
that is found for its module. -/
def Direct : Request → Prop
  | .file file => ∀ path, compiler.modulePathOf fs file = .ok path →
      compiler.locate fs path = .ok file
  | .module _ outer => outer = []

lemma Direct.outer_eq {request : Request} (h : compiler.Direct fs request) :
    request.outer = [] := by
  cases request with
  | file => rfl
  | module => exact h

/-- A direct request keeps what compilations in chains that follow the imports pass on. -/
lemma Performance.holds {kept : Cache α → ModulePath → CompileResult α → Prop} {request : Request}
    (hbears : compiler.Bears fs (fun path chain file =>
      compiler.Followed fs chain path ∧ compiler.locate fs path = .ok file) kept)
    (hdirect : compiler.Direct fs request)
    (h : compiler.Performance fs request before after) (hbefore : before.Holds kept) :
    after.Holds kept := by
  cases h with
  | underived => exact hbefore
  | @file depth file path _ _ _ derived fills =>
      exact holds_compileWithin hbears ⟨followed_root path, hdirect path derived⟩ fills hbefore
  | module depth required =>
      obtain rfl : _ = [] := hdirect
      exact holds_requireWithin hbears (fun _ hlocate => ⟨followed_root _, hlocate⟩) required
        hbefore

/-- After direct requests all results are right. -/
lemma right_performAll {requests : List Request} (hfree : compiler.frontend.ChainFree)
    (hdirect : ∀ request ∈ requests, compiler.Direct fs request)
    (h : (compiler.performAll (requests.map (fs, ·))).Leads .fresh () after) :
    after.Holds fun _ path result => compiler.Right fs path result := by
  refine (performAll_induction (fun session => session.Holds fun _ path result =>
    compiler.Right fs path result) (fun served hserved before after _ hbefore hperformance => ?_)
    Session.idle_fresh Session.holds_fresh h).2
  obtain ⟨request, hrequest, rfl⟩ := List.mem_map.mp hserved
  exact hperformance.holds (bears_right fs hfree) (hdirect request hrequest) hbefore

/-- **What a module compiles to does not depend on the order of requests**: after any direct
requests to two compilers of syntax trees with the same options and files, none of which is a link,
each module that both have been asked for has a result in both caches, and either is a module iff
the module compiles apart from all caches, and then it is that module. -/
theorem agreement_of_performAll (options : Options) (fs : Filesystem)
    {requests others : List Request}
    (hrequests : ∀ request ∈ requests, (ofSyntaxTrees options).Direct fs request)
    (hothers : ∀ request ∈ others, (ofSyntaxTrees options).Direct fs request) :
    ∃ session session',
      ((ofSyntaxTrees options).performAll (requests.map (fs, ·))).Leads .fresh () session ∧
      ((ofSyntaxTrees options).performAll (others.map (fs, ·))).Leads .fresh () session' ∧
      ∀ path, (ofSyntaxTrees options).AskedFor (requests.map (fs, ·)) session path →
        (ofSyntaxTrees options).AskedFor (others.map (fs, ·)) session' path →
        ∃ result result', session.cache.get? path = some result ∧
          session'.cache.get? path = some result' ∧ ∀ info,
            (result = .ok info ↔ result' = .ok info) ∧
            (result = .ok info ↔ (ofSyntaxTrees options).Compiles fs path info) := by
  have hfree : (ofSyntaxTrees options).frontend.ChainFree :=
    Frontend.chainFree_syntaxTrees
  have hroots : ∀ {list : List Request},
      (∀ request ∈ list, (ofSyntaxTrees options).Direct fs request) →
        ∀ served ∈ list.map (fs, ·), served.2.outer = [] := by
    intro list hlist served hserved
    obtain ⟨request, hrequest, rfl⟩ := List.mem_map.mp hserved
    exact (hlist request hrequest).outer_eq
  obtain ⟨_, session, hsession⟩ := completes_performAll (ofSyntaxTrees options)
    (requests.map (fs, ·)) Session.idle_fresh
  obtain ⟨_, session', hsession'⟩ := completes_performAll (ofSyntaxTrees options)
    (others.map (fs, ·)) Session.idle_fresh
  refine ⟨session, session', hsession, hsession', fun path hasked hasked' => ?_⟩
  obtain ⟨result, hresult⟩ := result_of_askedFor (hroots hrequests) hsession hasked
  obtain ⟨result', hresult'⟩ := result_of_askedFor (hroots hothers) hsession' hasked'
  refine ⟨result, result', hresult, hresult', fun info => ?_⟩
  rw [Cache.get?_eq_some_iff] at hresult hresult'
  have hright := right_performAll hfree hrequests hsession path result hresult
  have hright' := right_performAll hfree hothers hsession' path result' hresult'
  exact ⟨hright.eq_ok_iff.trans hright'.eq_ok_iff.symm, hright.eq_ok_iff⟩

/-- The bottom of a diamond of imports is compiled for the top, or before it on its own. The two are
the same compiled modules either way. -/
theorem agreement_of_performAll_diamond :
    (∀ request ∈ [Request.file ⟨"./a.brk"⟩, .module ⟨none, [], "d"⟩ []],
      (ofSyntaxTrees {}).Direct diamondFiles request) ∧
    (∀ request ∈ [Request.module ⟨none, [], "d"⟩ [], .module ⟨none, [], "a"⟩ []],
      (ofSyntaxTrees {}).Direct diamondFiles request) ∧
    ∃ session session',
      ((ofSyntaxTrees {}).performAll ([Request.file ⟨"./a.brk"⟩, .module ⟨none, [], "d"⟩ []].map
        (diamondFiles, ·))).Leads .fresh () session ∧
      ((ofSyntaxTrees {}).performAll ([Request.module ⟨none, [], "d"⟩ [],
        .module ⟨none, [], "a"⟩ []].map (diamondFiles, ·))).Leads .fresh () session' ∧
      ∀ path ∈ [(⟨none, [], "a"⟩ : ModulePath), ⟨none, [], "d"⟩], ∃ info,
        session.cache.get? path = some (.ok info) ∧ session'.cache.get? path = some (.ok info) ∧
          (ofSyntaxTrees {}).Compiles diamondFiles path info := by
  have hfile : (ofSyntaxTrees {}).Direct diamondFiles (.file ⟨"./a.brk"⟩) := by
    intro path hpath
    have hderived : (ofSyntaxTrees {}).modulePathOf diamondFiles ⟨"./a.brk"⟩ =
        .ok ⟨none, [], "a"⟩ := by decide +kernel
    rw [← Except.ok.inj (hderived.symm.trans hpath)]
    decide +kernel
  have hmodule : ∀ path, (ofSyntaxTrees {}).Direct diamondFiles (.module path []) :=
    fun _ => Eq.refl ([] : List ModulePath)
  have hrequests : ∀ request ∈ [Request.file ⟨"./a.brk"⟩, .module ⟨none, [], "d"⟩ []],
      (ofSyntaxTrees {}).Direct diamondFiles request :=
    List.forall_mem_cons.mpr ⟨hfile, List.forall_mem_singleton.mpr (hmodule _)⟩
  have hothers : ∀ request ∈ [Request.module ⟨none, [], "d"⟩ [], .module ⟨none, [], "a"⟩ []],
      (ofSyntaxTrees {}).Direct diamondFiles request :=
    List.forall_mem_cons.mpr ⟨hmodule _, List.forall_mem_singleton.mpr (hmodule _)⟩
  obtain ⟨session, session', hsession, hsession', hagree⟩ :=
    agreement_of_performAll {} diamondFiles hrequests hothers
  have hrun : ((ofSyntaxTrees {}).performAll ([Request.file ⟨"./a.brk"⟩,
      .module ⟨none, [], "d"⟩ []].map (diamondFiles, ·)) .fresh).any (fun run =>
        [(⟨none, [], "a"⟩ : ModulePath), ⟨none, [], "d"⟩].all fun path =>
          (run.2.cache.get? path).any Except.isOk) = true := by
    decide +kernel
  rw [hsession.any_eq, List.all_eq_true] at hrun
  have hasked : ∀ path ∈ [(⟨none, [], "a"⟩ : ModulePath), ⟨none, [], "d"⟩],
      (ofSyntaxTrees {}).AskedFor ([Request.file ⟨"./a.brk"⟩, .module ⟨none, [], "d"⟩ []].map
        (diamondFiles, ·)) session path ∧
      (ofSyntaxTrees {}).AskedFor ([Request.module ⟨none, [], "d"⟩ [],
        .module ⟨none, [], "a"⟩ []].map (diamondFiles, ·)) session' path := by
    have houtermost : ∀ path ∈ [(⟨none, [], "a"⟩ : ModulePath), ⟨none, [], "d"⟩],
        (∃ served ∈ [Request.file ⟨"./a.brk"⟩, .module ⟨none, [], "d"⟩ []].map (diamondFiles, ·),
          (ofSyntaxTrees {}).outermost served.1 served.2 = some path) ∧
        ∃ served ∈ [Request.module ⟨none, [], "d"⟩ [],
            .module ⟨none, [], "a"⟩ []].map (diamondFiles, ·),
          (ofSyntaxTrees {}).outermost served.1 served.2 = some path := by
      decide +kernel
    exact fun path hpath => (houtermost path hpath).imp .inl .inl
  refine ⟨hrequests, hothers, session, session', hsession, hsession', fun path hpath => ?_⟩
  obtain ⟨result, result', hresult, hresult', hboth⟩ :=
    hagree path (hasked path hpath).1 (hasked path hpath).2
  have hok := hrun path hpath
  rw [hresult, Option.any_some] at hok
  cases result with
  | error failure => cases hok
  | ok info =>
      obtain ⟨hsame, hcompiles⟩ := hboth info
      exact ⟨info, hresult, hresult'.trans (by rw [hsame.mp rfl]), hcompiles.mp rfl⟩

end Compiler

end BriskModules
