import BriskModules.Diagnostic.Report
import BriskModules.Proofs.Graph.Agreement

/-!
Every failure tells what has caused it.

An import whose module failed is told in one line, and the diagnostics of that module follow,
which may be old ones from the cache. Since the failure of a module comes into the cache after
those of its imports, these lines lead down to an error in a module that has another cause.

* `Diagnostic.Blames`: the line that tells that a module failed;
* `Caused`: diagnostics in which those of a failed module follow the line that tells of it;
* `Explained`: what a reader sees of that;
* `Caused.explained`: the first has the second as a consequence;
* `Frontend.Explains`: a frontend whose own diagnostics are of this kind;
* `bears_caused`: then those of all failures are;
* `explained_of_reached`: whatever is called after any other calls.
-/

namespace BriskModules

variable {α : Type}

/-- A diagnostic tells that a module which is imported could not be compiled. -/
structure Diagnostic.Blames (diagnostic : Diagnostic) (target : ModulePath) : Prop where
  level : diagnostic.level = .error
  code : diagnostic.code = Code.cannotCompileImport
  message : diagnostic.message = "cannot compile imported module " ++ target.text

/-- Errors in which each line that tells of a failed module is followed by what is wrong with this
module as the cache has it. -/
inductive Caused (cache : Cache α) : List Diagnostic → Prop where
  | concrete {diagnostic : Diagnostic} (level : diagnostic.level = .error)
      (code : diagnostic.code ≠ Code.cannotCompileImport) : Caused cache [diagnostic]
  | failed {diagnostic : Diagnostic} {target : ModulePath} {failure : CompileFailure}
      (blames : diagnostic.Blames target) (stored : cache.get? target = some (.error failure))
      (caused : Caused cache failure.diagnostics) :
      Caused cache (diagnostic :: failure.diagnostics)
  | append {first rest : List Diagnostic} (caused : Caused cache first)
      (caused' : Caused cache rest) : Caused cache (first ++ rest)

/-- Diagnostics that explain a failure: there are some, all of them are errors, the last one
is not that an import failed, each line that tells so is followed by all that is wrong with the
failed module as the cache has it, where another cause is among it, and a report counts every one
of them. -/
structure Explained (cache : Cache α) (diagnostics : List Diagnostic) : Prop where
  nonempty : diagnostics ≠ []
  errors : ∀ diagnostic ∈ diagnostics, diagnostic.level = .error
  last : ∀ diagnostic, diagnostics.getLast? = some diagnostic →
    diagnostic.code ≠ Code.cannotCompileImport
  followed : ∀ before diagnostic after, diagnostics = before ++ diagnostic :: after →
    diagnostic.code = Code.cannotCompileImport →
      ∃ target failure rest, diagnostic.Blames target ∧
        cache.get? target = some (.error failure) ∧ after = failure.diagnostics ++ rest ∧
          ∃ cause ∈ failure.diagnostics, cause.code ≠ Code.cannotCompileImport
  counted : (Report.extend {} diagnostics).errorCount = diagnostics.length
  counted_pos : 1 ≤ (Report.extend {} diagnostics).errorCount

/-! ### Counting errors -/

namespace Report

lemma diagnostics_extend (report : Report) (diagnostics : List Diagnostic) :
    (report.extend diagnostics).diagnostics = report.diagnostics ++ diagnostics := by
  induction diagnostics generalizing report with
  | nil => simp [extend]
  | cons diagnostic more ih =>
      have hmore := ih (report.emit diagnostic)
      rw [extend] at hmore ⊢
      rw [List.foldl_cons, hmore]
      simp [emit]

/-- A report that has been started with errors counts all of them. -/
lemma errorCount_extend {diagnostics : List Diagnostic}
    (h : ∀ diagnostic ∈ diagnostics, diagnostic.level = .error) :
    (Report.extend {} diagnostics).errorCount = diagnostics.length := by
  have hempty : ({} : Report).Counted := ⟨rfl, rfl⟩
  rw [(hempty.extend diagnostics).1, diagnostics_extend, countLevel, List.nil_append,
    List.countP_eq_length]
  intro diagnostic hdiagnostic
  simpa using h diagnostic hdiagnostic

end Report

/-! ### Diagnostics with their causes -/

namespace Caused

variable {cache cache' : Cache α} {diagnostics : List Diagnostic}

lemma nonempty (h : Caused cache diagnostics) : diagnostics ≠ [] := by
  induction h with
  | concrete => simp
  | failed => simp
  | append _ _ ih => simp [ih]

lemma errors (h : Caused cache diagnostics) :
    ∀ diagnostic ∈ diagnostics, diagnostic.level = .error := by
  induction h with
  | concrete level => exact List.forall_mem_singleton.mpr level
  | failed blames _ _ ih => exact List.forall_mem_cons.mpr ⟨blames.level, ih⟩
  | append _ _ ih ih' => exact List.forall_mem_append.mpr ⟨ih, ih'⟩

/-- What comes last is no import that failed. -/
lemma last (h : Caused cache diagnostics) : ∀ diagnostic, diagnostics.getLast? = some diagnostic →
    diagnostic.code ≠ Code.cannotCompileImport := by
  induction h with
  | concrete _ code =>
      intro diagnostic hlast
      obtain rfl := Option.some.inj hlast
      exact code
  | failed _ _ caused ih =>
      intro diagnostic hlast
      rw [List.getLast?_cons_of_ne_nil caused.nonempty] at hlast
      exact ih diagnostic hlast
  | append _ caused' _ ih' =>
      intro diagnostic hlast
      rw [List.getLast?_append_of_ne_nil _ caused'.nonempty] at hlast
      exact ih' diagnostic hlast

/-- There is a cause that is not that an import failed. -/
lemma exists_cause (h : Caused cache diagnostics) :
    ∃ cause ∈ diagnostics, cause.code ≠ Code.cannotCompileImport :=
  ⟨diagnostics.getLast h.nonempty, List.getLast_mem h.nonempty,
    h.last _ (List.getLast?_eq_some_getLast h.nonempty)⟩

/-- What is wrong with a failed module follows the line that tells of it. -/
lemma followed (h : Caused cache diagnostics) {before after : List Diagnostic}
    {diagnostic : Diagnostic} (heq : diagnostics = before ++ diagnostic :: after)
    (hcode : diagnostic.code = Code.cannotCompileImport) :
    ∃ target failure rest, diagnostic.Blames target ∧ cache.get? target = some (.error failure) ∧
      after = failure.diagnostics ++ rest ∧ Caused cache failure.diagnostics := by
  induction h generalizing before after with
  | concrete _ code =>
      have hmem : diagnostic ∈ before ++ diagnostic :: after := by simp
      rw [← heq, List.mem_singleton] at hmem
      exact absurd (hmem ▸ hcode) code
  | @failed own target failure blames stored caused ih =>
      cases before with
      | nil =>
          obtain ⟨rfl, rfl⟩ := List.cons.inj heq
          exact ⟨target, failure, [], blames, stored, by rw [List.append_nil], caused⟩
      | cons _ before => exact ih (List.cons.inj heq).2
  | @append first rest _ _ ih ih' =>
      rcases List.append_eq_append_iff.mp heq with ⟨middle, rfl, hrest⟩ | ⟨middle, hfirst, hafter⟩
      · exact ih' hrest
      · cases middle with
        | nil => exact ih' (show rest = [] ++ diagnostic :: after from hafter.symm)
        | cons other middle =>
            obtain ⟨rfl, rfl⟩ := List.cons.inj hafter
            obtain ⟨target, failure, more, hblames, hstored, rfl, hcaused⟩ := ih hfirst
            exact ⟨target, failure, more ++ rest, hblames, hstored, List.append_assoc _ _ _,
              hcaused⟩

/-- More results in the cache do not mind. -/
lemma mono (hstays : cache.StaysIn cache') (h : Caused cache diagnostics) :
    Caused cache' diagnostics := by
  induction h with
  | concrete level code => exact .concrete level code
  | failed blames stored _ ih => exact .failed blames (hstays _ _ stored) ih
  | append _ _ ih ih' => exact ih.append ih'

/-- Diagnostics with their causes explain a failure. -/
theorem explained (h : Caused cache diagnostics) : Explained cache diagnostics where
  nonempty := h.nonempty
  errors := h.errors
  last := h.last
  followed := by
    intro before diagnostic after heq hcode
    obtain ⟨target, failure, rest, hblames, hstored, hafter, hcaused⟩ := h.followed heq hcode
    exact ⟨target, failure, rest, hblames, hstored, hafter, hcaused.exists_cause⟩
  counted := Report.errorCount_extend h.errors
  counted_pos := by
    rw [Report.errorCount_extend h.errors]
    exact List.length_pos_of_ne_nil h.nonempty

/-- Several diagnostics with their causes are one after the other. -/
lemma flatMap {β : Type} {items : List β} {toDiagnostics : β → List Diagnostic}
    (hitems : items ≠ []) (h : ∀ item ∈ items, Caused cache (toDiagnostics item)) :
    Caused cache (items.flatMap toDiagnostics) := by
  induction items with
  | nil => exact absurd rfl hitems
  | cons item more ih =>
      obtain ⟨hitem, hmore⟩ := List.forall_mem_cons.mp h
      rw [List.flatMap_cons]
      by_cases hlast : more = []
      · simpa [hlast] using hitem
      · exact hitem.append (ih hlast hmore)

/-- Errors that tell of no other module need no cause. -/
lemma of_own (hdiagnostics : diagnostics ≠ [])
    (h : ∀ diagnostic ∈ diagnostics, diagnostic.Own) : Caused cache diagnostics := by
  have hcaused : Caused cache (diagnostics.flatMap fun diagnostic => [diagnostic]) := by
    refine flatMap hdiagnostics fun diagnostic hdiagnostic => ?_
    have hown := h diagnostic hdiagnostic
    exact concrete hown.level hown.uncaused
  rwa [List.flatMap_singleton'] at hcaused

end Caused

/-! ### Failures of modules -/

/-- What a frontend refuses, it explains, whatever has been compiled. -/
def Frontend.Explains (frontend : Frontend α) : Prop :=
  ∀ (cache : Cache α) diagnostics, frontend.Rejects diagnostics → Caused cache diagnostics

lemma Frontend.explains_syntaxTrees : syntaxTrees.Explains := by
  rintro cache diagnostics (⟨file, text, path, hparse⟩ | ⟨unit, imports, exports, hcheck⟩)
  · simp only [syntaxTrees, parseSyntaxTree] at hparse
    cases hunit : CompilationUnit.ofText text with
    | ok unit => simp [hunit] at hparse
    | error fault =>
        simp only [hunit, Except.error.injEq] at hparse
        rw [← hparse]
        exact .concrete rfl (by simp only [syntaxTreeDiagnostic, Diagnostic.error]; decide)
  · cases hcheck

/-- A failure is told with its causes. -/
def CompileResult.HasCause (result : CompileResult α) (cache : Cache α) : Prop :=
  ∀ failure, result = .error failure → Caused cache failure.diagnostics

/-- What is told of a refused import is caused if the failures of other modules are. -/
lemma Checks.caused {requires : Requiring α} {current : ModulePath} {decls : List Import}
    {imports imports' : Imports α} {errors : List ImportError}
    {before after : Session α (Journal α)}
    (hreliable : requires.Reliable)
    (h : Checks requires current decls imports before imports' errors after)
    (hafter : after.Holds fun cache _ result => result.HasCause cache)
    {error : ImportError} (herror : error ∈ errors) (file : Span) :
    Caused after.cache (error.toDiagnostics file) := by
  obtain ⟨own, hlevel, hcode, hmessage, hall⟩ := error.exists_toDiagnostics_eq file
  rw [hall]
  rcases h.causes hreliable herror with ⟨hconcrete, hnone⟩ | ⟨target, failure, loc, rfl, hstored⟩
  · rw [hnone]
    exact .concrete hlevel (hcode ▸ hconcrete)
  · exact .failed ⟨hlevel, hcode, hmessage⟩ ((Cache.get?_eq_some_iff _ _).mpr hstored)
      (hafter target (.error failure) hstored failure rfl)

namespace Compiler

variable {compiler : Compiler α} {fs : Filesystem} {path : ModulePath} {chain : ImportChain}
  {file : FileName} {result : CompileResult α} {before after session : Session α (Journal α)}

variable (fs) in
/-- Compilations fail with diagnostics that are caused, if the frontend explains what it
refuses. -/
lemma bears_caused (hexplains : compiler.frontend.Explains) :
    compiler.Bears fs (fun _ _ _ => True) (fun cache _ result => result.HasCause cache) where
  lasting := fun hstays _ _ hresult failure hfailure => (hresult failure hfailure).mono hstays
  missing := by
    rintro _ path failure hlocate _ ⟨⟩
    obtain ⟨own, hown, howns⟩ := own_of_locate hlocate
    rw [hown]
    exact .concrete howns.level howns.uncaused
  next := fun _ _ _ _ _ => trivial
  compiled := by
    rintro requires path chain file before _ after hreliable - h hafter failure rfl
    rcases h.failed with ⟨hne, howns⟩ | hrejects | ⟨unit, imports, errors, middle, -, hchecks,
      hwrong, rfl, rfl⟩
    · exact .of_own hne howns
    · exact hexplains _ _ hrejects
    · refine Caused.flatMap hwrong fun error herror => ?_
      exact hchecks.caused hreliable hafter herror _

/-- All failures that any calls leave in the cache are caused. -/
lemma Reached.caused (hexplains : compiler.frontend.Explains) (h : compiler.Reached session) :
    session.Holds fun cache _ result => result.HasCause cache := by
  induction h with
  | fresh => exact Session.holds_fresh
  | compileFile fs _ called ih =>
      rcases compileFileWithin_of_leads called with ⟨-, -, -, rfl⟩ | ⟨path, result, -, hfills, -⟩
      · exact ih
      · exact holds_compileWithin (bears_caused fs hexplains) trivial hfills ih
  | require fs _ called ih =>
      exact holds_requireWithin (bears_caused fs hexplains) (fun _ _ => trivial) called ih

/-- The diagnostics with which compiling a file fails are caused. -/
lemma caused_of_compileFile (hexplains : compiler.frontend.Explains)
    (hreached : compiler.Reached before) {diagnostics : List Diagnostic}
    (h : (compiler.compileFile fs file).Leads before (.error diagnostics) after) :
    Caused after.cache diagnostics := by
  have hafter := (Reached.compileFile fs hreached h).caused hexplains
  rcases compileFileWithin_of_leads h with ⟨diagnostic, hpath, houtcome, -⟩ |
    ⟨path, result, -, hfills, houtcome⟩
  · obtain rfl := Except.error.inj houtcome
    rw [modulePathOf] at hpath
    split at hpath
    · cases hpath
    · obtain rfl := Except.error.inj hpath
      exact .concrete rfl (by simp only [Diagnostic.error]; decide)
  · cases result with
    | ok info => cases houtcome
    | error failure =>
        obtain rfl := Except.error.inj houtcome
        exact hafter path (.error failure) (grows_compileWithin hfills).2 failure rfl

/-- The diagnostics with which requiring a module fails are caused. -/
lemma caused_of_require (hexplains : compiler.frontend.Explains)
    (hreached : compiler.Reached before) {failure : CompileFailure}
    (h : (compiler.require fs path chain).Leads before (.error failure) after) :
    Caused after.cache failure.diagnostics := by
  have hafter := (Reached.require fs hreached h).caused hexplains
  have hstored := (reliable_requireWithin compiler fs _).stored h
  exact hafter path (.error failure) hstored failure rfl

/-- **No failure is silent, and each has a cause**: whatever calls have been completed before, with
whatever files, none of which is a link, all failures in the cache are explained, where a module is
blamed by what the cache has of it, compiling a file leads to a module or to diagnostics that
explain why not, and so does requiring a module. It completes at the end of a chain to which the
module belongs. -/
theorem explained_of_reached (options : Options) {session : Session Unit (Journal Unit)}
    (hreached : (ofSyntaxTrees options).Reached session) :
    (∀ path failure, session.cache.get? path = some (.error failure) →
      Explained session.cache failure.diagnostics) ∧
    (∀ fs file, ∃ outcome after,
      ((ofSyntaxTrees options).compileFile fs file).Leads session outcome after ∧
        ∀ diagnostics, outcome = .error diagnostics → Explained after.cache diagnostics) ∧
    ∀ fs path chain,
      (path ∈ chain.modules → ((ofSyntaxTrees options).require fs path chain).Completes session) ∧
      ∀ failure after, ((ofSyntaxTrees options).require fs path chain).Leads session
        (.error failure) after → Explained after.cache failure.diagnostics := by
  have hexplains : (ofSyntaxTrees options).frontend.Explains := Frontend.explains_syntaxTrees
  refine ⟨fun path failure hfailure => ?_, fun fs file => ?_, fun fs path chain => ⟨?_, ?_⟩⟩
  · rw [Cache.get?_eq_some_iff] at hfailure
    exact (hreached.caused hexplains path (.error failure) hfailure failure rfl).explained
  · obtain ⟨outcome, after, hcompile⟩ : ((ofSyntaxTrees options).compileFile fs file).Completes
        session := completes_compileFile file hreached.idle
    refine ⟨outcome, after, hcompile, fun diagnostics houtcome => ?_⟩
    rw [houtcome] at hcompile
    exact (caused_of_compileFile hexplains hreached hcompile).explained
  · exact fun hpath => completes_require hpath hreached.idle
  · exact fun failure after hrequire => (caused_of_require hexplains hreached hrequire).explained

/-- Of two modules that import each other, the first one fails. -/
theorem explained_of_reached_mutual : ∃ session failure, (ofSyntaxTrees {}).Reached session ∧
    session.cache.get? ⟨none, [], "a"⟩ = some (.error failure) ∧
      Explained session.cache failure.diagnostics := by
  have hfails : ((ofSyntaxTrees {}).compileFile mutualFiles ⟨"a.brk"⟩ .fresh).any (fun run =>
      (run.2.cache.get? ⟨none, [], "a"⟩).any (!·.isOk)) = true := by decide +kernel
  obtain ⟨⟨outcome, session⟩, hcompile, hresult⟩ := (Option.any_eq_true _ _).mp hfails
  obtain ⟨result, hstored, hnot⟩ := (Option.any_eq_true _ _).mp hresult
  cases result with
  | ok info => cases hnot
  | error failure =>
      have hreached : (ofSyntaxTrees {}).Reached session := .compileFile _ .fresh hcompile
      exact ⟨session, failure, hreached, hstored,
        (explained_of_reached {} hreached).1 _ failure hstored⟩

/-- The import of the second module comes first, and then what is wrong there. -/
example : ((ofSyntaxTrees {}).compileFile mutualFiles ⟨"a.brk"⟩ .fresh).any (fun run =>
    (run.1.mapError (·.map (·.code))).map (fun _ => ()) ==
      .error [Code.cannotCompileImport, Code.cyclicImport]) = true := by
  decide +kernel

end Compiler

end BriskModules
