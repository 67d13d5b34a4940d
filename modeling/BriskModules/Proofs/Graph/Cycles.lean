import BriskModules.Proofs.Graph.Agreement

/-!
Reported cycles are cycles of imports.

An import is refused for a cycle if it leads into the chain in which its module is compiled.
That chain has been built up over nested compilations, and each of its modules has an import
that leads to the next one. So the chain in the error, from the target on, is a cycle of
imports, also when the error is told much later, as the cause of a failure that is in the cache.

* `Compiler.Closes`: an import of the last module of a chain leads back into it;
* `Closes.transGen`: its target is on a cycle of imports;
* `Event.Genuine`: the imports that an event refuses for a cycle close one;
* `Compiler.Grounded`: a diagnostic that tells of a cycle comes from one, or from the frontend;
* `bears_grounded`: failures tell of no other cycles;
* `closes_of_performAll`: all reported cycles are genuine, whatever has been requested.
-/

namespace BriskModules

variable {α : Type}

namespace Compiler

variable (compiler : Compiler α) (fs : Filesystem)

/-- A chain follows the imports to a module with an import that leads back into the chain. -/
structure Closes (chain : ImportChain) (path target : ModulePath) : Prop where
  followed : compiler.Followed fs chain path
  edge : compiler.Edge fs path target
  member : target ∈ chain.modules

/-- A diagnostic is grounded if it comes from the frontend, or tells of a chain that is closed
by an import. -/
def Grounded (diagnostic : Diagnostic) : Prop :=
  (∃ diagnostics, compiler.frontend.Rejects diagnostics ∧ diagnostic ∈ diagnostics) ∨
    ∃ path target chain loc file, compiler.Closes fs chain path target ∧
      diagnostic ∈ (ImportError.cyclic target chain loc).toDiagnostics (.ofFile file)

end Compiler

/-- The imports that are refused for a cycle when an event happens close one. -/
def Event.Genuine (compiler : Compiler α) (fs : Filesystem) : Event α → Prop
  | .refused path errors => ∀ target chain loc, ImportError.cyclic target chain loc ∈ errors →
      compiler.Closes fs chain path target
  | _ => True

namespace Compiler

variable {compiler : Compiler α} {fs : Filesystem} {requires : Requiring α}
  {path target : ModulePath} {chain : ImportChain} {file : FileName}
  {result : CompileResult α} {before after : Session α (Journal α)}

/-- Where a chain is closed, imports lead from the target back to it. -/
lemma Closes.transGen (h : compiler.Closes fs chain path target) :
    Relation.TransGen (compiler.Edge fs) target target :=
  Relation.TransGen.tail' (h.followed.reaches h.member) h.edge

/-! ### Refused imports -/

section Checks

variable {unit : CompilationUnit} {imports : Imports α} {errors : List ImportError}

/-- An import that is refused for a cycle closes the chain in which it is checked. -/
lemma genuine_of_checks (hreliable : requires.Reliable)
    (hfollowed : compiler.Followed fs chain path)
    (hlocate : compiler.locate fs path = .ok file) (hparses : compiler.Parses fs path file unit)
    (h : Checks requires path unit.imports (.empty chain) before imports errors after) :
    (Event.refused path errors : Event α).Genuine compiler fs := by
  intro target closed loc herror
  obtain ⟨decl, hdecl, ⟨known, hknown, hrefused⟩ | ⟨other, result, hrefused, -⟩⟩ :=
    h.refusal hreliable herror
  · obtain ⟨hresolve, rfl, hmember⟩ := importTarget_eq_cyclic hrefused
    have hchain : known.chain = chain := hknown
    have hedge : compiler.Edge fs path target :=
      ⟨file, unit, hlocate, hparses, decl, hdecl, hresolve⟩
    exact ⟨by rw [hchain]; exact hfollowed, hedge, hmember⟩
  · -- what is refused for the result of its target is refused for no cycle
    rcases accept_eq_error hrefused with ⟨failure, -, heq⟩ | heq | heq <;> cases heq

/-- An error that is told of a refused import is grounded if those of its causes are. -/
lemma grounded_of_toDiagnostics {error : ImportError} {diagnostic : Diagnostic}
    (hcloses : ∀ target chain loc, error = .cyclic target chain loc →
      compiler.Closes fs chain path target)
    (hcauses : diagnostic ∈ error.causes → compiler.Grounded fs diagnostic)
    (hdiagnostic : diagnostic ∈ error.toDiagnostics (.ofFile file))
    (hcode : diagnostic.code = Code.cyclicImport) : compiler.Grounded fs diagnostic := by
  obtain ⟨own, -, hown, -, hall⟩ := error.exists_toDiagnostics_eq (.ofFile file)
  have hmem := hdiagnostic
  rw [hall] at hmem
  rcases List.mem_cons.mp hmem with rfl | hmem
  · rw [hown] at hcode
    obtain ⟨target, chain, loc, rfl⟩ := ImportError.exists_eq_cyclic hcode
    exact .inr ⟨path, target, chain, loc, file, hcloses target chain loc rfl, hdiagnostic⟩
  · exact hcauses hmem

end Checks

/-! ### The journal -/

/-- Compiling the module at the end of a chain that follows the imports refuses imports for
genuine cycles only, if requiring a module in such a chain does. -/
lemma Compilation.genuine (hreliable : requires.Reliable)
    (hrequires : ∀ {path chain before result after}, requires path chain before result after →
      compiler.Followed fs chain path → Session.Adds (Event.Genuine compiler fs) before after)
    (hfollowed : compiler.Followed fs chain path) (hlocate : compiler.locate fs path = .ok file)
    (h : compiler.Compilation fs requires path chain file before result after) :
    Session.Adds (Event.Genuine compiler fs) before after := by
  have hparsed : Session.Adds (Event.Genuine compiler fs) before
      (before.noted (.parsed path file)) := Session.adds_noted before trivial
  have hchecked : ∀ {unit imports errors last}, compiler.Parses fs path file unit →
      Checks requires path unit.imports (.empty chain) (before.noted (.parsed path file)) imports
        errors last → Session.Adds (Event.Genuine compiler fs) before last := by
    intro unit imports errors last hparses hchecks
    refine hchecks.preserves (Session.Adds (Event.Genuine compiler fs) before ·) rfl ?_ hparsed
    intro decl hdecl target result first last hresolve hnew hrequired hadds
    have hedge : compiler.Edge fs path target :=
      ⟨file, unit, hlocate, hparses, decl, hdecl, hresolve⟩
    exact hadds.trans (hrequires hrequired (hfollowed.extend hedge))
  cases h with
  | unreadable => exact .refl _
  | unparsed => exact hparsed
  | refused parses checks =>
      have hgenuine := genuine_of_checks hreliable hfollowed hlocate parses checks
      exact (hchecked parses checks).trans (Session.adds_noted _ hgenuine)
  | leaking parses checks => exact hchecked parses checks
  | illTyped parses checks => exact (hchecked parses checks).trans (Session.adds_noted _ trivial)
  | completed parses checks => exact (hchecked parses checks).trans (Session.adds_noted _ trivial)

/-- Requiring a module in a chain that follows the imports refuses imports for genuine cycles
only. -/
lemma genuine_requireWithin {depth : ℕ}
    (h : compiler.requiring fs depth path chain before result after)
    (hfollowed : compiler.Followed fs chain path) :
    Session.Adds (Event.Genuine compiler fs) before after := by
  refine requireWithin_induction (fun path chain before _ after =>
    compiler.Followed fs chain path → Session.Adds (Event.Genuine compiler fs) before after)
    ?_ depth h hfollowed
  intro requires hreliable hrequires path chain before result after hfills hfollowed
  have hnoted : Session.Adds (Event.Genuine compiler fs) before
      (before.noted (.required path chain before.cache.running)) :=
    Session.adds_noted before trivial
  refine hnoted.trans (adds_of_search (fun file after hlocate hcompiles => ?_) hfills)
  exact hcompiles.genuine hreliable hrequires hfollowed hlocate

/-! ### The failures in the cache -/

/-- The diagnostics of a failure that tell of cycles are grounded. -/
def Grounds (compiler : Compiler α) (fs : Filesystem) : CompileResult α → Prop
  | .ok _ => True
  | .error failure => ∀ diagnostic ∈ failure.diagnostics, diagnostic.code = Code.cyclicImport →
      compiler.Grounded fs diagnostic

variable (compiler fs) in
/-- Compilations in chains that follow the imports fail with grounded diagnostics. -/
lemma bears_grounded : compiler.Bears fs
    (fun path chain file => compiler.Followed fs chain path ∧ compiler.locate fs path = .ok file)
    (fun _ _ result => compiler.Grounds fs result) where
  lasting := fun _ _ _ hgrounds => hgrounds
  missing := by
    intro _ path failure hlocate diagnostic hdiagnostic hcode
    obtain ⟨own, hown, howns⟩ := own_of_locate hlocate
    rw [hown, List.mem_singleton] at hdiagnostic
    exact absurd (hdiagnostic ▸ hcode) howns.acyclic
  next := by
    rintro path chain file unit decl target file' ⟨hfollowed, hlocate⟩ hparses hdecl hresolve
      hlocate'
    exact ⟨hfollowed.extend ⟨file, unit, hlocate, hparses, decl, hdecl, hresolve⟩, hlocate'⟩
  compiled := by
    rintro requires path chain file before result after hreliable ⟨hfollowed, hlocate⟩ h hafter
    cases result with
    | ok info => trivial
    | error failure =>
        intro diagnostic hdiagnostic hcode
        rcases h.failed with ⟨-, howns⟩ | hrejects | ⟨unit, imports, errors, middle, hparses,
          hchecks, -, rfl, rfl⟩
        · exact absurd hcode (howns diagnostic hdiagnostic).acyclic
        · exact .inl ⟨_, hrejects, hdiagnostic⟩
        · obtain ⟨error, herror, hmem⟩ := List.mem_flatMap.mp hdiagnostic
          have hgenuine := genuine_of_checks hreliable hfollowed hlocate hparses hchecks
          refine grounded_of_toDiagnostics
            (fun target chain loc heq => hgenuine target chain loc (heq ▸ herror)) ?_ hmem hcode
          intro hcause
          rcases hchecks.causes hreliable herror with
            ⟨-, hnone⟩ | ⟨target, failure, loc, rfl, hstored⟩
          · simp [hnone] at hcause
          · exact hafter target (.error failure) hstored diagnostic hcause hcode

/-! ### All requests -/

/-- A session in which all cycles that have been reported are genuine. -/
structure Credible (compiler : Compiler α) (fs : Filesystem) (session : Session α (Journal α)) :
    Prop where
  genuine : ∀ event ∈ session.record, event.Genuine compiler fs
  grounds : session.Holds fun _ _ result => compiler.Grounds fs result

lemma credible_fresh : compiler.Credible fs .fresh :=
  ⟨by simp [Session.fresh], Session.holds_fresh⟩

lemma Credible.of_adds (h : compiler.Credible fs before)
    (hadds : Session.Adds (Event.Genuine compiler fs) before after)
    (hafter : after.Holds fun _ _ result => compiler.Grounds fs result) :
    compiler.Credible fs after := by
  obtain ⟨events, hrecord, hgenuine⟩ := hadds
  refine ⟨fun event hevent => ?_, hafter⟩
  rw [hrecord] at hevent
  rcases List.mem_append.mp hevent with hevent | hevent
  · exact h.genuine event hevent
  · exact hgenuine event hevent

/-- Performing a direct request reports genuine cycles only. -/
lemma Performance.credible {request : Request} (hdirect : compiler.Direct fs request)
    (h : compiler.Performance fs request before after) (hbefore : compiler.Credible fs before) :
    compiler.Credible fs after := by
  refine hbefore.of_adds ?_ (h.holds (bears_grounded compiler fs) hdirect hbefore.grounds)
  cases h with
  | underived => exact .refl _
  | @file depth file path _ _ _ derived fills =>
      refine adds_of_fills (fun after hcompiles => ?_) fills
      exact hcompiles.genuine (reliable_requireWithin compiler fs depth) genuine_requireWithin
        (followed_root path) (hdirect path derived)
  | module depth required =>
      obtain rfl : _ = [] := hdirect
      exact genuine_requireWithin required (followed_root _)

/-- **Every reported cycle is a cycle of imports**: after any direct requests with the same files,
none of which is a link, for each import that has been refused for a cycle, the chain in the error
follows the imports to the module that is refused it, and the import leads from there back into the
chain. What the failures in the cache tell of cycles comes from such a chain, unless it comes from
the frontend. -/
theorem closes_of_performAll (compiler : Compiler α) (fs : Filesystem) {requests : List Request}
    (hrequests : ∀ request ∈ requests, compiler.Direct fs request) :
    ∃ session, (compiler.performAll (requests.map (fs, ·))).Leads .fresh () session ∧
      (∀ path errors target chain loc, .refused path errors ∈ session.record →
        .cyclic target chain loc ∈ errors → compiler.Closes fs chain path target) ∧
      ∀ path failure diagnostic, session.cache.get? path = some (.error failure) →
        diagnostic ∈ failure.diagnostics → diagnostic.code = Code.cyclicImport →
          compiler.Grounded fs diagnostic := by
  obtain ⟨_, session, hsession⟩ := completes_performAll compiler (requests.map (fs, ·))
    Session.idle_fresh
  have hcredible : compiler.Credible fs session := by
    refine (performAll_induction (compiler.Credible fs) (fun served hserved before after _ hbefore
      hperformance => ?_) Session.idle_fresh credible_fresh hsession).2
    obtain ⟨request, hrequest, rfl⟩ := List.mem_map.mp hserved
    exact hperformance.credible (hrequests request hrequest) hbefore
  refine ⟨session, hsession, ?_, ?_⟩
  · intro path errors target chain loc hevent herror
    exact hcredible.genuine _ hevent target chain loc herror
  · intro path failure diagnostic hfailure hdiagnostic hcode
    rw [Cache.get?_eq_some_iff] at hfailure
    exact hcredible.grounds path (.error failure) hfailure diagnostic hdiagnostic hcode

/-- A module on a cycle is required first, and the file of the other one is compiled later. -/
theorem closes_of_performAll_mutual :
    (∀ request ∈ [Request.module ⟨none, [], "a"⟩ [], .file ⟨"./b.brk"⟩],
      (ofSyntaxTrees {}).Direct mutualFiles request) ∧
    ∃ session, ((ofSyntaxTrees {}).performAll ([Request.module ⟨none, [], "a"⟩ [],
        .file ⟨"./b.brk"⟩].map (mutualFiles, ·))).Leads .fresh () session ∧
      (∀ path errors target chain loc, .refused path errors ∈ session.record →
        .cyclic target chain loc ∈ errors →
          (ofSyntaxTrees {}).Closes mutualFiles chain path target) ∧
      ∀ path failure diagnostic, session.cache.get? path = some (.error failure) →
        diagnostic ∈ failure.diagnostics → diagnostic.code = Code.cyclicImport →
          (ofSyntaxTrees {}).Grounded mutualFiles diagnostic := by
  have hrequests : ∀ request ∈ [Request.module ⟨none, [], "a"⟩ [], .file ⟨"./b.brk"⟩],
      (ofSyntaxTrees {}).Direct mutualFiles request := by
    intro request hrequest
    rcases List.mem_cons.mp hrequest with rfl | hrequest
    · exact Eq.refl ([] : List ModulePath)
    · rw [List.mem_singleton.mp hrequest]
      intro path hpath
      have hderived : (ofSyntaxTrees {}).modulePathOf mutualFiles ⟨"./b.brk"⟩ =
          .ok ⟨none, [], "b"⟩ := by decide +kernel
      rw [← Except.ok.inj (hderived.symm.trans hpath)]
      decide +kernel
  exact ⟨hrequests, closes_of_performAll _ _ hrequests⟩

/-- There the other module fails for the cycle. -/
example : ((ofSyntaxTrees {}).performAll [(mutualFiles, .module ⟨none, [], "a"⟩ [])] .fresh).any
    (fun run => (run.2.cache.get? ⟨none, [], "b"⟩).any fun result =>
      (result.mapError (·.diagnostics.map (·.code))).map (fun _ => ()) ==
        .error [Code.cyclicImport]) = true := by
  decide +kernel

end Compiler

end BriskModules
