import BriskModules.Proofs.Export.Leaks
import BriskModules.Proofs.Graph.Requests

/-!
What all results in a cache have in common.

Results come into a cache one at a time, and each is made when those of the imports are there.
So a property of results holds of all of them if a compilation passes it on, whatever the order
in which modules are required. It may speak of the other results, as long as it does not mind more
of them. What remains is one compilation, and if that fails, only the refused imports tell of other
modules.

* `Session.Holds`: all results in a session have a property;
* `Lasting`: a property that stays when more results come into the cache;
* `holds_of_fills`: all results still have it when a cell is filled;
* `Compiler.Bears`: a property that each compilation passes on;
* `holds_requireWithin`, `holds_compileWithin`: then all results have it;
* `Checks.causes`: the failures behind refused imports;
* `Compilation.failed`: the ways in which a compilation fails.
-/

namespace BriskModules

variable {α : Type}

/-- All results in a session have a property, which may speak of the cache. -/
def Session.Holds (kept : Cache α → ModulePath → CompileResult α → Prop)
    (session : Session α (Journal α)) : Prop :=
  ∀ path result, session.cache.cells[path]? = some (.done result) →
    kept session.cache path result

/-- A property of results stays when more results come into the cache. -/
def Lasting (kept : Cache α → ModulePath → CompileResult α → Prop) : Prop :=
  ∀ {cache cache'}, cache.StaysIn cache' → ∀ {path result}, kept cache path result →
    kept cache' path result

section Cells

variable {kept : Cache α → ModulePath → CompileResult α → Prop} {path : ModulePath}
  {result : CompileResult α} {before after session : Session α (Journal α)}

lemma Session.holds_fresh : (fresh : Session α (Journal α)).Holds kept := by
  simp [Holds, fresh]

lemma Session.holds_noted {event : Event α} :
    (session.noted event).Holds kept ↔ session.Holds kept :=
  Iff.rfl

lemma Session.Holds.started (h : session.Holds kept) (hlasting : Lasting kept)
    (hcell : session.cache.cells[path]? = none) : (session.started path).Holds kept := by
  intro other known hknown
  simp only [Session.started, Cache.getElem?_start] at hknown
  split_ifs at hknown
  · cases hknown
  · exact hlasting (Cache.staysIn_start hcell) (h other known hknown)

lemma Session.Holds.finished (h : session.Holds kept) (hlasting : Lasting kept)
    (hnone : session.cache.get? path = none) (hresult : kept session.cache path result) :
    (session.finished path result).Holds kept := by
  intro other known hknown
  refine hlasting (Cache.staysIn_finish hnone result) ?_
  simp only [Session.finished, Cache.getElem?_finish] at hknown
  split_ifs at hknown with heq
  · simp only [Option.some.injEq, Cell.done.injEq] at hknown
    rw [heq, ← hknown]
    exact hresult
  · exact h other known hknown

/-- When the cell of a module is filled, all results have a property if the new one does. -/
lemma holds_of_fills (hlasting : Lasting kept)
    {makes : Session α (Journal α) → CompileResult α → Session α (Journal α) → Prop}
    (hmakes : ∀ before result after, makes before result after → before.Holds kept →
      before.Grows after ∧ after.Holds kept ∧ kept after.cache path result)
    (h : Fills makes path before result after) (hbefore : before.Holds kept) :
    after.Holds kept := by
  cases h with
  | known cell => exact hbefore
  | made cell making =>
      obtain ⟨hgrows, hmiddle, hresult⟩ := hmakes _ _ _ making (hbefore.started hlasting cell)
      exact hmiddle.finished hlasting hgrows.get?_eq_none hresult

end Cells

/-! ### Properties that compilations pass on -/

namespace Compiler

variable {compiler : Compiler α} {fs : Filesystem} {requires : Requiring α}
  {path : ModulePath} {chain : ImportChain} {file : FileName} {result : CompileResult α}
  {before after : Session α (Journal α)}
  {placed : ModulePath → ImportChain → FileName → Prop}
  {kept : Cache α → ModulePath → CompileResult α → Prop}

variable (compiler fs) in
/-- Each compilation of a module that is placed at the end of a chain and in a file passes on a
property: the module gets it when all other results have it, it stays, and an import that is found
is placed in turn. -/
structure Bears (placed : ModulePath → ImportChain → FileName → Prop)
    (kept : Cache α → ModulePath → CompileResult α → Prop) : Prop where
  lasting : Lasting kept
  missing : ∀ {cache path failure}, compiler.locate fs path = .error failure →
    kept cache path (.error failure)
  next : ∀ {path chain file unit decl target file'}, placed path chain file →
    compiler.Parses fs path file unit → decl ∈ unit.imports →
      resolveImport path decl.path = .ok target → compiler.locate fs target = .ok file' →
        placed target (chain.extend target) file'
  compiled : ∀ {requires : Requiring α} {path chain file before result after},
    requires.Reliable → placed path chain file →
      compiler.Compilation fs requires path chain file before result after →
        after.Holds kept → kept after.cache path result

/-- A module that is compiled gets the property if requiring its imports keeps it. -/
lemma Compilation.holds (hbears : compiler.Bears fs placed kept) (hreliable : requires.Reliable)
    (hrequires : ∀ {path chain before result after}, requires path chain before result after →
      (∀ file, compiler.locate fs path = .ok file → placed path chain file) →
        before.Holds kept → after.Holds kept)
    (hplaced : placed path chain file)
    (h : compiler.Compilation fs requires path chain file before result after)
    (hbefore : before.Holds kept) : after.Holds kept ∧ kept after.cache path result := by
  have hafter : after.Holds kept := by
    refine h.preserves (·.Holds kept) (fun _ _ _ hsession => hsession) ?_ hbefore
    intro unit parses decl hdecl target result first last hresolve hnew hrequired hfirst
    exact hrequires hrequired (fun _ => hbears.next hplaced parses hdecl hresolve) hfirst
  exact ⟨hafter, hbears.compiled hreliable hplaced h hafter⟩

/-- Requiring a module keeps the property. -/
lemma holds_requireWithin (hbears : compiler.Bears fs placed kept) {depth : ℕ}
    (hplaced : ∀ file, compiler.locate fs path = .ok file → placed path chain file)
    (h : compiler.requiring fs depth path chain before result after)
    (hbefore : before.Holds kept) : after.Holds kept := by
  refine requireWithin_induction (fun path chain before _ after =>
    (∀ file, compiler.locate fs path = .ok file → placed path chain file) →
      before.Holds kept → after.Holds kept) ?_ depth h hplaced hbefore
  intro requires hreliable hrequires path chain before result after hfills hplaced hbefore
  have hnoted : (before.noted (.required path chain before.cache.running)).Holds kept := hbefore
  refine holds_of_fills hbears.lasting (fun first result last hsearch hfirst => ?_) hfills hnoted
  refine ⟨hsearch.grows hreliable, ?_⟩
  cases hsearch with
  | missing located => exact ⟨hfirst, hbears.missing located⟩
  | found located compiles =>
      exact compiles.holds hbears hreliable hrequires (hplaced _ located) hfirst

/-- So does compiling the outermost module. -/
lemma holds_compileWithin (hbears : compiler.Bears fs placed kept) {depth : ℕ}
    (hplaced : placed path chain file)
    (h : Fills (compiler.Compilation fs (compiler.requiring fs depth) path chain file) path
      before result after)
    (hbefore : before.Holds kept) : after.Holds kept := by
  have hreliable := reliable_requireWithin compiler fs depth
  refine holds_of_fills hbears.lasting (fun first result last hcompiles hfirst => ?_) h hbefore
  exact ⟨hcompiles.grows hreliable, hcompiles.holds hbears hreliable
    (fun hrequired hplaced => holds_requireWithin hbears hplaced hrequired) hplaced hfirst⟩

end Compiler

/-! ### How a compilation fails -/

/-- An error that tells of no other module: of no cycle, and of no import that failed. -/
structure Diagnostic.Own (diagnostic : Diagnostic) : Prop where
  level : diagnostic.level = .error
  acyclic : diagnostic.code ≠ Code.cyclicImport
  uncaused : diagnostic.code ≠ Code.cannotCompileImport

lemma Diagnostic.own_error {code : String} (message : String) (span : Span)
    (hacyclic : code ≠ Code.cyclicImport) (huncaused : code ≠ Code.cannotCompileImport) :
    (error code message span).Own :=
  ⟨rfl, hacyclic, huncaused⟩

lemma ExportError.own_toDiagnostic (error : ExportError) (file : Span) :
    (error.toDiagnostic file).Own := by
  have hcode : (error.toDiagnostic file).code ∈ [Code.nameLessAccessible,
      Code.implicitNameLessAccessible, Code.internalModuleRequired,
      Code.importInternalRequired] := by
    cases error <;> simp [toDiagnostic, code, Diagnostic.error, Diagnostic.withNote,
      Diagnostic.withHelp]
  have hother : ∀ code ∈ [Code.nameLessAccessible, Code.implicitNameLessAccessible,
      Code.internalModuleRequired, Code.importInternalRequired],
      code ≠ Code.cyclicImport ∧ code ≠ Code.cannotCompileImport := by
    decide
  exact ⟨by cases error <;> rfl, (hother _ hcode).1, (hother _ hcode).2⟩

/-- An import is refused for no cause in another module, or for the failure of its target, which
is in the cache. -/
lemma Checks.causes {requires : Requiring α} {current : ModulePath} {decls : List Import}
    {imports imports' : Imports α} {errors : List ImportError}
    {before after : Session α (Journal α)}
    (hreliable : requires.Reliable)
    (h : Checks requires current decls imports before imports' errors after)
    {error : ImportError} (herror : error ∈ errors) :
    (error.code ≠ Code.cannotCompileImport ∧ error.causes = []) ∨
      ∃ target failure loc, error = .cannotCompile target failure loc ∧
        after.cache.cells[target]? = some (.done (.error failure)) := by
  obtain ⟨decl, -, ⟨known, -, hrefused⟩ | ⟨target, result, hrefused, hstored⟩⟩ :=
    h.refusal hreliable herror
  · exact .inl (ImportError.causes_of_importTarget hrefused)
  · rcases accept_eq_error hrefused with ⟨failure, rfl, rfl⟩ | rfl | rfl
    · exact .inr ⟨target, failure, decl.pathLoc, rfl, hstored⟩
    · exact .inl ⟨by simp only [ImportError.code]; decide, rfl⟩
    · exact .inl ⟨by simp only [ImportError.code]; decide, rfl⟩

/-- The diagnostics with which a frontend refuses a text or a unit. -/
def Frontend.Rejects (frontend : Frontend α) (diagnostics : List Diagnostic) : Prop :=
  (∃ file text path, frontend.parse file text path = .error diagnostics) ∨
    ∃ unit imports exports, frontend.check unit imports exports = .error diagnostics

namespace Compiler

variable {compiler : Compiler α} {fs : Filesystem} {requires : Requiring α}
  {path : ModulePath} {chain : ImportChain} {file : FileName} {failure : CompileFailure}
  {before after : Session α (Journal α)}

/-- What has been tried does not change the kind of the error. -/
lemma own_notFound (compiler : Compiler α) (path : ModulePath) (tried : List FileName) :
    (compiler.notFound path tried).Own := by
  have hnotes : ∀ (diagnostic : Diagnostic), diagnostic.Own →
      (tried.foldl (fun diagnostic file => diagnostic.withNote ("tried " ++ file.text))
        diagnostic).Own := by
    induction tried with
    | nil => exact fun _ h => h
    | cons file more ih => exact fun _ h => ih _ ⟨h.level, h.acyclic, h.uncaused⟩
  have hnoted := hnotes _ (Diagnostic.own_error ("cannot find module " ++ path.text) .unknown
    (show Code.moduleNotFound ≠ Code.cyclicImport by decide) (by decide))
  simp only [notFound]
  split_ifs
  · exact ⟨hnoted.level, hnoted.acyclic, hnoted.uncaused⟩
  · exact ⟨hnoted.level, hnoted.acyclic, hnoted.uncaused⟩
  · exact hnoted

/-- A module that has no file fails with an error of its own. -/
lemma own_of_locate (h : compiler.locate fs path = .error failure) :
    ∃ diagnostic, failure.diagnostics = [diagnostic] ∧ diagnostic.Own := by
  rw [locate] at h
  cases hsearch : compiler.search fs path with
  | ok file => simp [hsearch] at h
  | error tried =>
      simp only [hsearch, Except.error.injEq] at h
      exact ⟨_, by rw [← h], own_notFound compiler path tried⟩

/-- A compilation that fails has errors of its own, is refused by the frontend, or has imports
that are refused. -/
lemma Compilation.failed
    (h : compiler.Compilation fs requires path chain file before (.error failure) after) :
    (failure.diagnostics ≠ [] ∧ ∀ diagnostic ∈ failure.diagnostics, diagnostic.Own) ∨
    compiler.frontend.Rejects failure.diagnostics ∨
    ∃ unit imports errors middle, compiler.Parses fs path file unit ∧
      Checks requires path unit.imports (.empty chain) (before.noted (.parsed path file)) imports
        errors middle ∧
      errors ≠ [] ∧ failure = Compiler.refused path file errors ∧
        after = middle.noted (.refused path errors) := by
  cases h with
  | unreadable =>
      refine .inl ⟨List.cons_ne_nil _ _, fun diagnostic hdiagnostic => ?_⟩
      rw [List.mem_singleton.mp hdiagnostic]
      exact Diagnostic.own_error _ _ (by decide) (by decide)
  | unparsed _ parsed => exact .inr (.inl (.inl ⟨_, _, _, parsed⟩))
  | refused parses checks wrong =>
      exact .inr (.inr ⟨_, _, _, _, parses, checks, wrong, rfl, rfl⟩)
  | leaking _ _ exported =>
      have hwrong := ((inferExports_eq_error_iff _ _ _ _ _).mp exported).1
      refine .inl ⟨by simpa [Compiler.leaking] using hwrong, fun diagnostic hdiagnostic => ?_⟩
      obtain ⟨error, -, rfl⟩ := List.mem_map.mp hdiagnostic
      exact error.own_toDiagnostic _
  | illTyped _ _ _ checked => exact .inr (.inl (.inr ⟨_, _, _, checked⟩))

end Compiler

end BriskModules
