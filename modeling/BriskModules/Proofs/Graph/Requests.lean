import BriskModules.Proofs.Graph.Completion

/-!
What a compiler is asked to do, one request after the other.

A compiler is asked to compile a file or to compile a module at the end of a chain, and
between the requests the files may change. Every request completes, leaves no module
running, and loses no result.

* `Request`, `Compiler.perform`, `Compiler.performAll`: requests and what they do;
* `Compiler.Performance`: the ways in which a request is performed;
* `completes_performAll`: all requests complete;
* `performAll_induction`: what each request keeps is kept by all of them;
* `Compiler.Reached`: the sessions that any calls lead to;
* `Compiler.ofSyntaxTrees`: the compiler of syntax trees;
* `mutualFiles`, `diamondFiles`: files whose modules import one another.
-/

namespace BriskModules

variable {α : Type}

/-- A request to a compiler. -/
inductive Request where
  /-- To compile a file as the outermost module. -/
  | file (file : FileName)
  /-- To compile a module on behalf of the modules in a chain, which ends with it and has
  the modules `outer` before it. -/
  | module (path : ModulePath) (outer : List ModulePath)
deriving DecidableEq, Repr

/-- The modules on whose behalf something is compiled. -/
def Request.outer : Request → List ModulePath
  | .file _ => []
  | .module _ outer => outer

namespace Compiler

variable (compiler : Compiler α)

/-- Does what is requested. -/
def perform (fs : Filesystem) : Request → Compiling α Unit
  | .file file => do
    let _ ← compiler.compileFile fs file
  | .module path outer => do
    let _ ← compiler.require fs path ⟨outer ++ [path]⟩

/-- Does what is requested one after the other, each time with the files as they are then. -/
def performAll : List (Filesystem × Request) → Compiling α Unit
  | [] => pure ()
  | (fs, request) :: more => do
    compiler.perform fs request
    performAll more

/-- The outermost module of a request. -/
def outermost (fs : Filesystem) : Request → Option ModulePath
  | .file file => (compiler.modulePathOf fs file).toOption
  | .module path outer => (outer ++ [path]).head?

variable (fs : Filesystem)

/-- How a request is performed: the file has no module path, the module in the file is known
or compiled, or a module is required. -/
inductive Performance : Request → Session α (Journal α) → Session α (Journal α) → Prop where
  | underived {file : FileName} {session : Session α (Journal α)} {diagnostic : Diagnostic}
      (underived : compiler.modulePathOf fs file = .error diagnostic) :
      Performance (.file file) session session
  | file (depth : ℕ) {file : FileName} {path : ModulePath}
      {before after : Session α (Journal α)} {result : CompileResult α}
      (derived : compiler.modulePathOf fs file = .ok path)
      (fills : Fills (compiler.Compilation fs (compiler.requiring fs depth) path (.root path)
        file) path before result after) :
      Performance (.file file) before after
  | module (depth : ℕ) {path : ModulePath} {outer : List ModulePath}
      {before after : Session α (Journal α)} {result : CompileResult α}
      (required : compiler.requiring fs depth path ⟨outer ++ [path]⟩ before result after) :
      Performance (.module path outer) before after

variable {compiler fs} {request : Request} {before after : Session α (Journal α)}

/-- What becomes of a file: it has no module path, or the module in it is known or compiled. -/
lemma compileFileWithin_of_leads {depth : ℕ} {file : FileName}
    {outcome : Except (List Diagnostic) (ModuleInfo α)}
    (h : (compiler.compileFileWithin fs depth file).Leads before outcome after) :
    (∃ diagnostic, compiler.modulePathOf fs file = .error diagnostic ∧
      outcome = .error [diagnostic] ∧ after = before) ∨
    ∃ path result, compiler.modulePathOf fs file = .ok path ∧
      Fills (compiler.Compilation fs (compiler.requiring fs depth) path (.root path) file) path
        before result after ∧ outcome = result.mapError (·.diagnostics) := by
  rw [compileFileWithin] at h
  cases hpath : compiler.modulePathOf fs file with
  | error diagnostic =>
      simp only [hpath, Work.leads_pure] at h
      exact .inl ⟨diagnostic, rfl, h.1, h.2⟩
  | ok path =>
      simp only [hpath] at h
      obtain ⟨result, middle, hrequire, hrest⟩ := Work.leads_bind.mp h
      obtain ⟨rfl, rfl⟩ := Work.leads_pure.mp hrest
      refine .inr ⟨path, result, rfl, ?_, rfl⟩
      cases Work.leads_requireWith.mp hrequire with
      | known cell => exact .known cell
      | made cell making => exact .made cell (compilation_of_leads making)

/-- Compiling a file lets the session grow. -/
lemma grows_compileFileWithin {depth : ℕ} {file : FileName}
    {outcome : Except (List Diagnostic) (ModuleInfo α)}
    (h : (compiler.compileFileWithin fs depth file).Leads before outcome after) :
    before.Grows after := by
  rcases compileFileWithin_of_leads h with ⟨-, -, -, rfl⟩ | ⟨path, result, -, hfills, -⟩
  · exact .refl _
  · exact (grows_compileWithin hfills).1

/-- A file that is compiled is performed as a request. -/
lemma performance_of_compileFile {file : FileName}
    {outcome : Except (List Diagnostic) (ModuleInfo α)}
    (h : (compiler.compileFile fs file).Leads before outcome after) :
    compiler.Performance fs (.file file) before after := by
  rcases compileFileWithin_of_leads h with
    ⟨diagnostic, hpath, -, rfl⟩ | ⟨path, result, hpath, hfills, -⟩
  · exact .underived hpath
  · exact .file _ hpath hfills

/-- Requests are performed in one of these ways. -/
lemma performance_of_leads (h : (compiler.perform fs request).Leads before () after) :
    compiler.Performance fs request before after := by
  cases request with
  | file file =>
      rw [perform] at h
      obtain ⟨outcome, middle, hcompile, hrest⟩ := Work.leads_bind.mp h
      obtain ⟨-, rfl⟩ := Work.leads_pure.mp hrest
      exact performance_of_compileFile hcompile
  | module path outer =>
      rw [perform] at h
      obtain ⟨result, middle, hrequire, hrest⟩ := Work.leads_bind.mp h
      obtain ⟨-, rfl⟩ := Work.leads_pure.mp hrest
      exact .module _ hrequire

/-- Performing a request lets the session grow. -/
lemma Performance.grows (h : compiler.Performance fs request before after) :
    before.Grows after := by
  cases h with
  | underived => exact .refl _
  | file _ _ fills => exact (grows_compileWithin fills).1
  | module _ required => exact (reliable_requireWithin compiler fs _).grows required

variable (compiler) in
/-- A request completes when no module is running. -/
theorem completes_perform (fs : Filesystem) (request : Request) (hidle : before.Idle) :
    (compiler.perform fs request).Completes before := by
  cases request with
  | file file => exact (completes_compileFile file hidle).bind fun _ _ _ => Work.completes_pure
  | module path outer =>
      exact (completes_require (by simp) hidle).bind fun _ _ _ => Work.completes_pure

/-! ### All requests -/

variable {requests : List (Filesystem × Request)}

/-- What every single request keeps when no module is running is kept by all requests. -/
lemma performAll_induction (Kept : Session α (Journal α) → Prop)
    (step : ∀ served ∈ requests, ∀ before after : Session α (Journal α), before.Idle →
      Kept before → compiler.Performance served.1 served.2 before after → Kept after)
    (hidle : before.Idle) (hbefore : Kept before)
    (h : (compiler.performAll requests).Leads before () after) : after.Idle ∧ Kept after := by
  induction requests generalizing before with
  | nil =>
      obtain ⟨-, rfl⟩ := Work.leads_pure.mp h
      exact ⟨hidle, hbefore⟩
  | cons served more ih =>
      obtain ⟨_, middle, hperform, hmore⟩ := Work.leads_bind.mp h
      have hperformance := performance_of_leads hperform
      exact ih (fun served hserved => step served (List.mem_cons_of_mem _ hserved))
        (hperformance.grows.idle hidle)
        (step served List.mem_cons_self before middle hidle hbefore hperformance) hmore

/-- After all requests no module is running and no result has been lost. -/
lemma grows_performAll (hidle : before.Idle)
    (h : (compiler.performAll requests).Leads before () after) : before.Grows after :=
  (performAll_induction (before.Grows ·) (fun _ _ _ _ _ hgrows hperformance =>
    hgrows.trans hperformance.grows) hidle (.refl before) h).2

variable (compiler) in
/-- All requests complete. -/
theorem completes_performAll (requests : List (Filesystem × Request)) (hidle : before.Idle) :
    (compiler.performAll requests).Completes before := by
  induction requests generalizing before with
  | nil => exact Work.completes_pure
  | cons served more ih =>
      refine (completes_perform compiler served.1 served.2 hidle).bind fun _ middle hperform => ?_
      exact ih ((performance_of_leads hperform).grows.idle hidle)

/-- What was requested first is done first. -/
lemma leads_performAll_append {others : List (Filesystem × Request)} :
    (compiler.performAll (requests ++ others)).Leads before () after ↔
      ∃ middle, (compiler.performAll requests).Leads before () middle ∧
        (compiler.performAll others).Leads middle () after := by
  induction requests generalizing before with
  | nil => simp [performAll, Work.leads_pure]
  | cons served more ih =>
      simp only [List.cons_append, performAll, Work.leads_bind, ih]
      constructor
      · rintro ⟨_, first, hfirst, middle, hmiddle, hafter⟩
        exact ⟨middle, ⟨(), first, hfirst, hmiddle⟩, hafter⟩
      · rintro ⟨middle, ⟨_, first, hfirst, hmiddle⟩, hafter⟩
        exact ⟨(), first, hfirst, middle, hmiddle, hafter⟩

/-! ### Whatever has been called -/

variable (compiler) in
/-- The sessions that calls lead to from a fresh one. The files may be others at each call, and
a module may be required at the end of any chain; a call that never completes leads nowhere. -/
inductive Reached : Session α (Journal α) → Prop where
  | fresh : Reached .fresh
  | compileFile (fs : Filesystem) {file : FileName} {before after : Session α (Journal α)}
      {outcome : Except (List Diagnostic) (ModuleInfo α)} (reached : Reached before)
      (called : (compiler.compileFile fs file).Leads before outcome after) : Reached after
  | require (fs : Filesystem) {path : ModulePath} {chain : ImportChain}
      {before after : Session α (Journal α)} {result : CompileResult α}
      (reached : Reached before)
      (called : (compiler.require fs path chain).Leads before result after) : Reached after

/-- Between calls no module is running. -/
lemma Reached.idle (h : compiler.Reached after) : after.Idle := by
  induction h with
  | fresh => exact Session.idle_fresh
  | compileFile fs _ called ih => exact (grows_compileFileWithin called).idle ih
  | require fs _ called ih =>
      exact ((reliable_requireWithin compiler fs _).grows called).idle ih

/-! ### Files to compile -/

/-- The compiler of syntax trees. -/
def ofSyntaxTrees (options : Options) : Compiler Unit := ⟨options, .syntaxTrees⟩

/-- The text of a unit that imports several modules under their own names. -/
def importingTexts (names : List String) : String :=
  "\x7b\"imports\": [" ++ ", ".intercalate (names.map fun name =>
    "\x7b\"local_name\": \x7b\"id\": \"" ++ name ++ "\"\x7d, \"path\": \"" ++ name ++
      "\"\x7d") ++ "], \"spec\": \x7b\x7d\x7d"

/-- Files of modules in the current directory, with the names that they import. -/
def importingFiles (modules : List (String × List String)) : Filesystem :=
  modules.foldl (fun fs entry => fs.write ⟨entry.1 ++ ".brk"⟩ (.text (importingTexts entry.2)))
    (Filesystem.empty [])

/-- Two files whose modules import each other. -/
def mutualFiles : Filesystem := importingFiles [("a", ["b"]), ("b", ["a"])]

/-- Four files, in which two modules share an import, and one more that none imports. -/
def diamondFiles : Filesystem :=
  importingFiles [("a", ["b", "c"]), ("b", ["d"]), ("c", ["d"]), ("d", []), ("e", ["a"])]

end Compiler

end BriskModules
