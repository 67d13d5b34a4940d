import BriskModules.Proofs.Graph.Work
import BriskModules.Proofs.Import.Link

/-!
What a compiler can do, form by form.

Compiling a module ends in one of six ways, and what happens on the way depends on how its
imports are required. Both are described as relations between sessions, for any way to
require modules, and the compiler is shown to do nothing else. Whatever is kept by these
relations is then kept by the compiler, however deep modules are nested.

* `Checks`: how the imports of a module are checked one after the other;
* `Compiler.Compilation`: the six ways in which compiling a module ends;
* `Checks.preserves`, `Compilation.preserves_parsed`, `Compilation.preserves`: what is kept
  whenever a module is required is kept by checking imports and by compiling a module;
* `Compiler.Search`: how the module at a path is compiled;
* `Compiler.requiring`: the compiler's own way to require modules;
* `checks_of_leads`, `compilation_of_leads`, `search_of_leads`: the compiler does just that.
-/

namespace BriskModules

variable {α : Type}

/-- An event that comes while a module is compiled, and not when one is required. -/
def Event.IsInner : Event α → Prop
  | .required .. => False
  | _ => True

/-- A way to require a module at the end of a chain, from a session to another one. -/
abbrev Requiring (α : Type) :=
  ModulePath → ImportChain → Session α (Journal α) → CompileResult α →
    Session α (Journal α) → Prop

/-! ### Checking imports -/

/-- How the imports of the module `current` are checked when `requires` is the way to
require a module: each is refused by itself, required and refused, or required and
registered. -/
inductive Checks (requires : Requiring α) (current : ModulePath) :
    List Import → Imports α → Session α (Journal α) → Imports α → List ImportError →
      Session α (Journal α) → Prop where
  | nil {imports : Imports α} {session : Session α (Journal α)} :
      Checks requires current [] imports session imports [] session
  | refused {decl : Import} {more : List Import} {imports imports' : Imports α}
      {errors : List ImportError} {error : ImportError} {before after : Session α (Journal α)}
      (untargeted : importTarget decl current imports = .error error)
      (rest : Checks requires current more imports before imports' errors after) :
      Checks requires current (decl :: more) imports before imports' (error :: errors) after
  | unaccepted {decl : Import} {more : List Import} {imports imports' : Imports α}
      {errors : List ImportError} {error : ImportError} {target : ModulePath}
      {result : CompileResult α} {before middle after : Session α (Journal α)}
      (targeted : importTarget decl current imports = .ok target)
      (required : requires target (imports.chain.extend target) before result middle)
      (unaccepted : accept decl current target result = .error error)
      (rest : Checks requires current more imports middle imports' errors after) :
      Checks requires current (decl :: more) imports before imports' (error :: errors) after
  | registered {decl : Import} {more : List Import} {imports imports' : Imports α}
      {errors : List ImportError} {target : ModulePath} {info : ModuleInfo α}
      {before middle after : Session α (Journal α)}
      (targeted : importTarget decl current imports = .ok target)
      (required : requires target (imports.chain.extend target) before (.ok info) middle)
      (importable : Importable current target info)
      (rest : Checks requires current more
        (imports.register decl.localName.id target info) middle imports' errors after) :
      Checks requires current (decl :: more) imports before imports' errors after

/-- Checking imports one after the other does what `Checks` tells. -/
lemma checks_of_leads {current : ModulePath}
    {require : ModulePath → ImportChain → Compiling α (CompileResult α)}
    {decls : List Import} {imports imports' : Imports α} {errors : List ImportError}
    {before after : Session α (Journal α)}
    (h : Work.Leads (checkEach current require decls imports) before (imports', errors) after) :
    Checks (fun path chain => (require path chain).Leads) current decls imports before
      imports' errors after := by
  induction decls generalizing imports imports' errors before after with
  | nil =>
      rw [checkEach, Work.leads_pure] at h
      obtain ⟨hvalue, rfl⟩ := h
      obtain ⟨rfl, rfl⟩ := Prod.mk.inj hvalue
      exact .nil
  | cons decl more ih =>
      rw [checkEach, checkImport, Work.leads_bind] at h
      obtain ⟨outcome, middle, himport, hrest⟩ := h
      cases htarget : importTarget decl current imports with
      | error error =>
          simp only [htarget, Work.leads_pure] at himport
          obtain ⟨rfl, rfl⟩ := himport
          simp only [Work.leads_bind, Work.leads_pure, Prod.exists] at hrest
          obtain ⟨_, _, _, hmore, hvalue, rfl⟩ := hrest
          obtain ⟨rfl, rfl⟩ := Prod.mk.inj hvalue
          exact .refused htarget (ih hmore)
      | ok target =>
          simp only [htarget, Work.leads_bind, Work.leads_pure] at himport
          obtain ⟨result, _, hrequire, rfl, rfl⟩ := himport
          cases haccept : accept decl current target result with
          | error error =>
              simp only [haccept, Except.map, Work.leads_bind, Work.leads_pure,
                Prod.exists] at hrest
              obtain ⟨_, _, _, hmore, hvalue, rfl⟩ := hrest
              obtain ⟨rfl, rfl⟩ := Prod.mk.inj hvalue
              exact .unaccepted htarget hrequire haccept (ih hmore)
          | ok info =>
              simp only [haccept, Except.map] at hrest
              obtain ⟨rfl, himportable⟩ := accept_eq_ok_iff.mp haccept
              exact .registered htarget hrequire himportable (ih hrest)

/-- What is kept whenever a module is required is kept by checking imports: a target is where
an import leads, and is not in the chain. -/
lemma Checks.preserves (Kept : Session α (Journal α) → Prop) {requires : Requiring α}
    {current : ModulePath} {chain : ImportChain} {decls : List Import}
    {imports imports' : Imports α} {errors : List ImportError}
    {before after : Session α (Journal α)}
    (h : Checks requires current decls imports before imports' errors after)
    (hchain : imports.chain = chain)
    (step : ∀ decl ∈ decls, ∀ target result first last,
      resolveImport current decl.path = .ok target → target ∉ chain.modules →
        requires target (chain.extend target) first result last → Kept first → Kept last)
    (hbefore : Kept before) : Kept after := by
  induction h with
  | nil => exact hbefore
  | refused _ _ ih =>
      exact ih hchain (fun decl hdecl => step decl (List.mem_cons_of_mem _ hdecl)) hbefore
  | unaccepted targeted required _ _ ih =>
      obtain ⟨hresolve, hnew, -⟩ := importTarget_eq_ok_iff.mp targeted
      rw [hchain] at required hnew
      have hmiddle := step _ List.mem_cons_self _ _ _ _ hresolve hnew required hbefore
      exact ih hchain (fun decl hdecl => step decl (List.mem_cons_of_mem _ hdecl)) hmiddle
  | registered targeted required _ _ ih =>
      obtain ⟨hresolve, hnew, -⟩ := importTarget_eq_ok_iff.mp targeted
      rw [hchain] at required hnew
      have hmiddle := step _ List.mem_cons_self _ _ _ _ hresolve hnew required hbefore
      exact ih hchain (fun decl hdecl => step decl (List.mem_cons_of_mem _ hdecl)) hmiddle

/-! ### Compiling a module -/

namespace Compiler

variable (compiler : Compiler α) (fs : Filesystem)

/-- A file holds a unit as the source of a module. -/
def Parses (path : ModulePath) (file : FileName) (unit : CompilationUnit) : Prop :=
  ∃ text, fs.readText file = .ok text ∧ compiler.frontend.parse file text path = .ok unit

/-- How compiling the module in a file ends when `requires` is the way to require a module:
the file is unreadable or cannot be parsed, imports are refused, exports leak, the frontend
refuses the unit, or there is a module. -/
inductive Compilation (requires : Requiring α) (path : ModulePath) (chain : ImportChain)
    (file : FileName) :
    Session α (Journal α) → CompileResult α → Session α (Journal α) → Prop where
  | unreadable {before : Session α (Journal α)} {error : AccessError}
      (read : fs.readText file = .error error) :
      Compilation requires path chain file before (.error (unreadable path file error)) before
  | unparsed {before : Session α (Journal α)} {text : String} {diagnostics : List Diagnostic}
      (read : fs.readText file = .ok text)
      (parsed : compiler.frontend.parse file text path = .error diagnostics) :
      Compilation requires path chain file before (.error ⟨path, diagnostics⟩)
        (before.noted (.parsed path file))
  | refused {before after : Session α (Journal α)} {unit : CompilationUnit}
      {imports : Imports α} {errors : List ImportError}
      (parses : compiler.Parses fs path file unit)
      (checks : Checks requires path unit.imports (.empty chain)
        (before.noted (.parsed path file)) imports errors after)
      (wrong : errors ≠ []) :
      Compilation requires path chain file before (.error (refused path file errors))
        (after.noted (.refused path errors))
  | leaking {before after : Session α (Journal α)} {unit : CompilationUnit}
      {imports : Imports α} {errors : List ExportError}
      (parses : compiler.Parses fs path file unit)
      (checks : Checks requires path unit.imports (.empty chain)
        (before.noted (.parsed path file)) imports [] after)
      (exported : inferExports unit path (.ofUnit unit) (.collect unit imports)
        imports.internal = .error errors) :
      Compilation requires path chain file before (.error (leaking path file errors)) after
  | illTyped {before after : Session α (Journal α)} {unit : CompilationUnit}
      {imports : Imports α} {exports : ExportContext} {diagnostics : List Diagnostic}
      (parses : compiler.Parses fs path file unit)
      (checks : Checks requires path unit.imports (.empty chain)
        (before.noted (.parsed path file)) imports [] after)
      (exported : inferExports unit path (.ofUnit unit) (.collect unit imports)
        imports.internal = .ok exports)
      (checked : compiler.frontend.check unit imports exports = .error diagnostics) :
      Compilation requires path chain file before (.error ⟨path, diagnostics⟩)
        (after.noted (.checked path imports.paths imports.artifacts (.error diagnostics)))
  | completed {before after : Session α (Journal α)} {unit : CompilationUnit}
      {imports : Imports α} {exports : ExportContext} {checked : α}
      (parses : compiler.Parses fs path file unit)
      (checks : Checks requires path unit.imports (.empty chain)
        (before.noted (.parsed path file)) imports [] after)
      (exported : inferExports unit path (.ofUnit unit) (.collect unit imports)
        imports.internal = .ok exports)
      (accepted : compiler.frontend.check unit imports exports = .ok checked) :
      Compilation requires path chain file before
        (.ok (moduleInfo path file unit imports exports checked))
        (after.noted (.checked path imports.paths imports.artifacts (.ok checked)))

section Preserves

variable {compiler fs} {requires : Requiring α} {path : ModulePath} {chain : ImportChain}
  {file : FileName} {before after : Session α (Journal α)} {result : CompileResult α}
  (Kept : Session α (Journal α) → Prop)

/-- Compiling a module does nothing, or from when the file is parsed on it keeps what is kept
by notes and whenever an import is required. -/
lemma Compilation.preserves_parsed
    (h : compiler.Compilation fs requires path chain file before result after)
    (noted : ∀ (session : Session α (Journal α)) event, event.IsInner → Kept session →
      Kept (session.noted event))
    (step : ∀ unit, compiler.Parses fs path file unit → ∀ decl ∈ unit.imports,
      ∀ target result first last, resolveImport path decl.path = .ok target →
        target ∉ chain.modules → requires target (chain.extend target) first result last →
          Kept first → Kept last)
    (hparsed : Kept (before.noted (.parsed path file))) : after = before ∨ Kept after := by
  cases h with
  | unreadable => exact .inl rfl
  | unparsed => exact .inr hparsed
  | refused parses checks =>
      exact .inr (noted _ _ trivial (checks.preserves Kept rfl (step _ parses) hparsed))
  | leaking parses checks => exact .inr (checks.preserves Kept rfl (step _ parses) hparsed)
  | illTyped parses checks =>
      exact .inr (noted _ _ trivial (checks.preserves Kept rfl (step _ parses) hparsed))
  | completed parses checks =>
      exact .inr (noted _ _ trivial (checks.preserves Kept rfl (step _ parses) hparsed))

/-- What is kept by notes and whenever an import is required is kept by compiling a module. -/
lemma Compilation.preserves
    (h : compiler.Compilation fs requires path chain file before result after)
    (noted : ∀ (session : Session α (Journal α)) event, event.IsInner → Kept session →
      Kept (session.noted event))
    (step : ∀ unit, compiler.Parses fs path file unit → ∀ decl ∈ unit.imports,
      ∀ target result first last, resolveImport path decl.path = .ok target →
        target ∉ chain.modules → requires target (chain.extend target) first result last →
          Kept first → Kept last)
    (hbefore : Kept before) : Kept after := by
  rcases h.preserves_parsed Kept noted step (noted _ _ trivial hbefore) with rfl | hafter
  · exact hbefore
  · exact hafter

end Preserves

/-- How the module at a path is compiled: it has no file, or its file is compiled. -/
inductive Search (requires : Requiring α) (path : ModulePath) (chain : ImportChain) :
    Session α (Journal α) → CompileResult α → Session α (Journal α) → Prop where
  | missing {before : Session α (Journal α)} {failure : CompileFailure}
      (located : compiler.locate fs path = .error failure) :
      Search requires path chain before (.error failure) before
  | found {before after : Session α (Journal α)} {result : CompileResult α} {file : FileName}
      (located : compiler.locate fs path = .ok file)
      (compiles : compiler.Compilation fs requires path chain file before result after) :
      Search requires path chain before result after

/-- The compiler's own way to require a module, with at most `depth` modules nested in one
another. -/
abbrev requiring (depth : ℕ) : Requiring α :=
  fun path chain => (compiler.requireWithin fs depth path chain).Leads

variable {compiler fs}

/-- Compiling the module in a file does what `Compilation` tells. -/
lemma compilation_of_leads
    {require : ModulePath → ImportChain → Compiling α (CompileResult α)} {path : ModulePath}
    {chain : ImportChain} {file : FileName} {before after : Session α (Journal α)}
    {result : CompileResult α}
    (h : (compiler.compileWith fs require path chain file).Leads before result after) :
    compiler.Compilation fs (fun path chain => (require path chain).Leads) path chain file
      before result after := by
  unfold compileWith at h
  cases hread : fs.readText file with
  | error error =>
      simp only [hread, Work.leads_pure] at h
      obtain ⟨rfl, rfl⟩ := h
      exact .unreadable hread
  | ok text =>
      simp only [hread, Work.leads_bind, Work.leads_note] at h
      obtain ⟨_, _, rfl, h⟩ := h
      cases hparse : compiler.frontend.parse file text path with
      | error diagnostics =>
          simp only [hparse, Work.leads_pure] at h
          obtain ⟨rfl, rfl⟩ := h
          exact .unparsed hread hparse
      | ok unit =>
          have hparses : compiler.Parses fs path file unit := ⟨text, hread, hparse⟩
          simp only [hparse, compileUnit, checkImports, bind_assoc, Work.leads_bind,
            Prod.exists, pure_bind] at h
          obtain ⟨imports, errors, middle, hchecks, h⟩ := h
          replace hchecks := checks_of_leads hchecks
          by_cases hwrong : errors = []
          · subst hwrong
            simp only [↓reduceIte, completeUnit] at h
            cases hexports : inferExports unit path (.ofUnit unit) (.collect unit imports)
                imports.internal with
            | error errors =>
                simp only [hexports, Work.leads_pure] at h
                obtain ⟨rfl, rfl⟩ := h
                exact .leaking hparses hchecks hexports
            | ok exports =>
                simp only [hexports, Work.leads_bind, Work.leads_note] at h
                obtain ⟨_, _, rfl, h⟩ := h
                cases hcheck : compiler.frontend.check unit imports exports with
                | error diagnostics =>
                    simp only [hcheck, Work.leads_pure] at h
                    obtain ⟨rfl, rfl⟩ := h
                    exact .illTyped hparses hchecks hexports hcheck
                | ok checked =>
                    simp only [hcheck, Work.leads_pure] at h
                    obtain ⟨rfl, rfl⟩ := h
                    exact .completed hparses hchecks hexports hcheck
          · simp only [hwrong, ↓reduceIte, Work.leads_bind, Work.leads_note,
              Work.leads_pure] at h
            obtain ⟨_, _, rfl, rfl, rfl⟩ := h
            exact .refused hparses hchecks hwrong

/-- A module that is required is known, or it is searched and compiled while its cell is
running; the modules on the way are nested less deep. -/
lemma search_of_leads {depth : ℕ} {path : ModulePath} {chain : ImportChain}
    {before after : Session α (Journal α)} {result : CompileResult α}
    (h : (compiler.requireWithin fs (depth + 1) path chain).Leads before result after) :
    Fills (compiler.Search fs (compiler.requiring fs depth) path chain) path
      (before.noted (.required path chain before.cache.running)) result after := by
  rw [requireWithin, Work.leads_bind] at h
  obtain ⟨_, _, hget, h⟩ := h
  obtain ⟨rfl, rfl⟩ := Work.leads_get.mp hget
  simp only [Work.leads_bind, Work.leads_note] at h
  obtain ⟨_, _, rfl, h⟩ := h
  cases Work.leads_requireWith.mp h with
  | known cell => exact .known cell
  | made cell making =>
      refine .made cell ?_
      cases hlocate : compiler.locate fs path with
      | error failure =>
          simp only [hlocate, Work.leads_pure] at making
          obtain ⟨rfl, rfl⟩ := making
          exact .missing hlocate
      | ok file =>
          simp only [hlocate] at making
          exact .found hlocate (compilation_of_leads making)

end Compiler

end BriskModules
