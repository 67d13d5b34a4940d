import BriskModules.CommandLine.Run
import BriskModules.Proofs.Graph.Acyclic
import BriskModules.Proofs.Graph.Agreement

/-!
What a successful compilation leaves in the cache.

A module that compiles has required each of its imports with success, and these are the links
of the module. So the modules that come into the cache while it is compiled are those that it
reaches over imports, and all of them have been compiled. Since each compiled module has its
imports in the cache, there is none of them missing.

* `Session.Gains`: only modules that are reached from some origins have come in;
* `Checks.gains`, `Compilation.gains`: the origins are the targets of the imports;
* `gains_of_fills`, `gains_requireWithin`: the origin is the module that is required;
* `closure_of_compileFile`: the cache holds what the outermost module reaches.
-/

namespace BriskModules

variable {α : Type}

/-- An import is still there in a cache with more results. -/
lemma Cache.HasImport.mono {cache cache' : Cache α} {path target : ModulePath}
    (hstays : cache.StaysIn cache') (h : cache.HasImport path target) :
    cache'.HasImport path target := by
  obtain ⟨info, hinfo, htarget⟩ := h
  exact ⟨info, hstays path (.ok info) hinfo, htarget⟩

/-! ### Modules that come into the cache -/

namespace Session

/-- A module is reached from an origin over imports of compiled modules. -/
def Spans (session : Session α (Journal α)) (origin : ModulePath → Prop) (path : ModulePath) :
    Prop :=
  ∃ target, origin target ∧ Relation.ReflTransGen session.cache.HasImport target path

/-- All modules that have come into the cache between two sessions are reached from an origin
over imports. -/
def Gains (before : Session α (Journal α)) (origin : ModulePath → Prop)
    (after : Session α (Journal α)) : Prop :=
  ∀ path : ModulePath, after.cache.cells[path]? ≠ none →
    before.cache.cells[path]? ≠ none ∨ after.Spans origin path

variable {before middle after : Session α (Journal α)} {origin origin' : ModulePath → Prop}
  {path : ModulePath}

lemma Spans.mono (h : before.Spans origin path)
    (hstays : before.cache.StaysIn after.cache)
    (horigin : ∀ target, origin target → origin' target) : after.Spans origin' path := by
  obtain ⟨target, htarget, hreaches⟩ := h
  have hle : before.cache.HasImport ≤ after.cache.HasImport :=
    fun _ _ himport => himport.mono hstays
  exact ⟨target, horigin target htarget, Relation.ReflTransGen.mono hle _ _ hreaches⟩

lemma Gains.refl (session : Session α (Journal α)) (origin : ModulePath → Prop) :
    session.Gains origin session :=
  fun _ => .inl

lemma Gains.trans (h₁ : before.Gains origin middle) (h₂ : middle.Gains origin after)
    (hgrows : middle.Grows after) : before.Gains origin after := by
  intro path hpath
  rcases h₂ path hpath with hmiddle | hspans
  · rcases h₁ path hmiddle with hbefore | hspans
    · exact .inl hbefore
    · exact .inr (hspans.mono hgrows.staysIn fun _ htarget => htarget)
  · exact .inr hspans

lemma Gains.mono (h : before.Gains origin after)
    (horigin : ∀ target, origin target → origin' target) : before.Gains origin' after := by
  intro path hpath
  rcases h path hpath with hbefore | hspans
  · exact .inl hbefore
  · exact .inr (hspans.mono (fun _ _ hresult => hresult) horigin)

end Session

/-! ### Compiling a module -/

section Steps

variable {compiler : Compiler α} {fs : Filesystem} {requires : Requiring α}
  {path : ModulePath} {chain : ImportChain} {file : FileName} {info : ModuleInfo α}
  {before after : Session α (Journal α)}

/-- One of several imports in the module `current` leads to a target. -/
def IsTarget (current : ModulePath) (decls : List Import) (target : ModulePath) : Prop :=
  ∃ decl ∈ decls, resolveImport current decl.path = .ok target

/-- Imports that are all accepted bring in what their targets reach. -/
lemma Checks.gains {current : ModulePath} {decls : List Import} {imports imports' : Imports α}
    (hreliable : requires.Reliable)
    (hrequires : ∀ {path chain before info after}, requires path chain before (.ok info) after →
      before.Gains (· = path) after)
    (h : Checks requires current decls imports before imports' [] after) :
    before.Gains (IsTarget current decls) after := by
  generalize herrors : ([] : List ImportError) = errors at h
  induction h with
  | nil => exact .refl _ _
  | refused => cases herrors
  | unaccepted => cases herrors
  | @registered decl more _ _ _ target _ before middle _ targeted required _ rest ih =>
      have hresolve := (importTarget_eq_ok_iff.mp targeted).1
      have hfirst : before.Gains (IsTarget current (decl :: more)) middle := by
        refine (hrequires required).mono ?_
        rintro other rfl
        exact ⟨decl, List.mem_cons_self, hresolve⟩
      refine hfirst.trans ((ih herrors).mono ?_) (rest.grows hreliable)
      rintro other ⟨decl', hdecl', hother⟩
      exact ⟨decl', List.mem_cons_of_mem _ hdecl', hother⟩

namespace Compiler

/-- A module that compiles brings in what its imports reach. -/
lemma Compilation.gains (hreliable : requires.Reliable)
    (hrequires : ∀ {path chain before info after}, requires path chain before (.ok info) after →
      before.Gains (· = path) after)
    (h : compiler.Compilation fs requires path chain file before (.ok info) after) :
    before.Gains (· ∈ info.imports) after := by
  obtain ⟨-, unit, links, hmakes, -⟩ := h.makes hreliable
  cases h with
  | completed parses checks =>
      obtain rfl := parses.unique hmakes.parses
      have hgains := checks.gains hreliable hrequires
      refine hgains.mono ?_
      rintro target ⟨decl, hdecl, hresolve⟩
      exact hmakes.mem_imports hdecl hresolve

/-- A module whose cell is filled brings in what it reaches itself. -/
lemma gains_of_fills
    {makes : Session α (Journal α) → CompileResult α → Session α (Journal α) → Prop}
    (hmakes : ∀ before (info : ModuleInfo α) after, makes before (.ok info) after →
      before.Grows after ∧ before.Gains (· ∈ info.imports) after)
    (h : Fills makes path before (.ok info) after) : before.Gains (· = path) after := by
  cases h with
  | known cell => exact .refl _ _
  | @made last _ cell making =>
      obtain ⟨hgrows, hgains⟩ := hmakes _ _ _ making
      have hstays : last.cache.StaysIn (last.finished path (.ok info)).cache :=
        Cache.staysIn_finish hgrows.get?_eq_none (.ok info)
      have hfinished : (last.finished path (.ok info)).cache.get? path = some (.ok info) := by
        simp [Session.finished, Cache.get?_finish]
      intro other hother
      by_cases heq : other = path
      · exact .inr ⟨path, rfl, heq ▸ .refl⟩
      · have hlast : last.cache.cells[other]? ≠ none := by
          simpa [Session.finished, heq] using hother
        rcases hgains other hlast with hstarted | hspans
        · exact .inl (by simpa [Session.started, heq] using hstarted)
        · -- the module is compiled now, and imports the origin
          obtain ⟨target, htarget, hreaches⟩ := hspans.mono hstays fun _ htarget => htarget
          exact .inr ⟨path, rfl, hreaches.head ⟨info, hfinished, htarget⟩⟩

/-- A module that is required with success brings in what it reaches. -/
lemma gains_requireWithin {depth : ℕ}
    (h : compiler.requiring fs depth path chain before (.ok info) after) :
    before.Gains (· = path) after := by
  refine requireWithin_induction (fun path _ before result after =>
    ∀ info, result = .ok info → before.Gains (· = path) after) ?_ depth h info rfl
  rintro requires hreliable hrequires path chain before _ after hfills info rfl
  have hgains : (before.noted (.required path chain before.cache.running)).Gains (· = path)
      after := by
    refine gains_of_fills (fun first info last hsearch => ⟨hsearch.grows hreliable, ?_⟩) hfills
    cases hsearch with
    | found _ compiles =>
        exact compiles.gains hreliable fun hrequired => hrequires hrequired _ rfl
  exact hgains

end Compiler

end Steps

/-! ### Modules that are reached -/

namespace Cache

/-- What a compiled module reaches in a sound cache has been compiled. -/
lemma Sound.compiled_of_reaches {cache : Cache α} (h : cache.Sound) {path other : ModulePath}
    {info : ModuleInfo α} (hinfo : cache.get? path = some (.ok info))
    (hreaches : Relation.ReflTransGen cache.HasImport path other) :
    ∃ found, cache.get? other = some (.ok found) := by
  induction hreaches with
  | refl => exact ⟨info, hinfo⟩
  | tail _ himport _ =>
      obtain ⟨importer, himporter, htarget⟩ := himport
      obtain ⟨found, hfound, -⟩ := (h.linked _ importer himporter).imported _ htarget
      exact ⟨found, hfound⟩

end Cache

/-! ### The outermost module -/

namespace Compiler

variable {compiler : Compiler α} {fs : Filesystem} {file : FileName} {info : ModuleInfo α}
  {after : Session α (Journal α)}

/-- A file that compiles leaves its module in a cache that is sound. -/
lemma sound_of_compileFile (h : (compiler.compileFile fs file).Leads .fresh (.ok info) after) :
    after.cache.Sound ∧ after.cache.get? info.path = some (.ok info) ∧
      Session.fresh.Gains (· = info.path) after := by
  have hsound : after.cache.Sound := (performance_of_compileFile h).sound Cache.sound_empty
  rcases compileFileWithin_of_leads h with ⟨_, -, houtcome, -⟩ | ⟨path, result, -, hfills, houtcome⟩
  · cases houtcome
  · cases result with
    | error failure => cases houtcome
    | ok found =>
        obtain rfl := Except.ok.inj houtcome
        have hreliable := reliable_requireWithin compiler fs
        have hstored : after.cache.get? path = some (.ok info) :=
          (Cache.get?_eq_some_iff _ _).mpr (grows_compileWithin hfills).2
        have hgains : Session.fresh.Gains (· = path) after :=
          gains_of_fills (fun _ _ _ hcompiles => ⟨hcompiles.grows (hreliable _),
            hcompiles.gains (hreliable _) gains_requireWithin⟩) hfills
        obtain rfl := (hsound.linked path info hstored).own
        exact ⟨hsound, hstored, hgains⟩

/-- After a file has compiled, the cells of the cache are those of the modules that the module
in it reaches over imports. -/
lemma cell_iff_of_compileFile (h : (compiler.compileFile fs file).Leads .fresh (.ok info) after)
    (path : ModulePath) :
    after.cache.cells[path]? ≠ none ↔
      Relation.ReflTransGen after.cache.HasImport info.path path := by
  obtain ⟨hsound, hstored, hgains⟩ := sound_of_compileFile h
  constructor
  · intro hpath
    rcases hgains path hpath with hfresh | ⟨_, rfl, hreaches⟩
    · exact absurd (Cache.getElem?_empty path) hfresh
    · exact hreaches
  · intro hreaches
    obtain ⟨found, hfound⟩ := hsound.compiled_of_reaches hstored hreaches
    rw [Cache.get?_eq_some_iff] at hfound
    simp [hfound]

/-- **A successful compilation resolves just the imports of its module, over any number of steps**:
when a file compiles in a fresh session, and no file is a link, the cells of the cache are those of
the modules that its module reaches over imports, each has been compiled with success, and the size
of the cache is their number. What the command to check the file writes starts with the path of the
module and this number, unless it writes the exports as JSON. -/
theorem closure_of_compileFile (options : Options) (fs : Filesystem) (file : FileName)
    {info : ModuleInfo Unit} {after : Session Unit (Journal Unit)}
    (h : ((ofSyntaxTrees options).compileFile fs file).Leads .fresh (.ok info) after) :
    after.cache.get? info.path = some (.ok info) ∧
    (∀ path cell, after.cache.cells[path]? = some cell →
      ∃ found : ModuleInfo Unit, cell = .done (.ok found) ∧ found.path = path) ∧
    (∀ path, after.cache.cells[path]? ≠ none ↔
      Relation.ReflTransGen after.cache.HasImport info.path path) ∧
    {path | Relation.ReflTransGen after.cache.HasImport info.path path}.encard =
      after.cache.size ∧
    ∀ colour, (∃ exports, CommandLine.check fs colour file options false =
        ⟨0, "✅ " ++ info.path.text ++ " (" ++ toString after.cache.size ++
          " module(s) resolved)\n" ++ exports, ""⟩) ∧
      CommandLine.check fs colour file options true =
        ⟨0, info.exports.toJson.pretty ++ "\n", ""⟩ := by
  obtain ⟨hsound, hstored, -⟩ := sound_of_compileFile h
  have hcell := cell_iff_of_compileFile h
  refine ⟨hstored, fun path cell hpath => ?_, hcell, ?_, fun colour => ?_⟩
  · have hreaches := (hcell path).mp (by simp [hpath])
    obtain ⟨found, hfound⟩ := hsound.compiled_of_reaches hstored hreaches
    have hdone := (Cache.get?_eq_some_iff _ _).mp hfound
    exact ⟨found, Option.some.inj (hpath.symm.trans hdone), (hsound.linked path found hfound).own⟩
  · calc {path | Relation.ReflTransGen after.cache.HasImport info.path path}.encard
        = {path : ModulePath | after.cache.cells[path]? ≠ none}.encard := by
          simp only [hcell]
      _ = after.cache.size := after.cache.encard_cells
  · have hrun : (compileFile ⟨options, .syntaxTrees⟩ fs file).run .fresh =
        some (.ok info, after) := h
    have hcheck : ∀ json, CommandLine.check fs colour file options json =
        ⟨0, CommandLine.checkedText info after.cache.size json, ""⟩ := by
      intro json
      simp only [CommandLine.check, hrun]
    refine ⟨⟨CommandLine.exportsText info.exports, ?_⟩, ?_⟩
    · rw [hcheck, CommandLine.checkedText, if_neg Bool.false_ne_true]
    · rw [hcheck, CommandLine.checkedText, if_pos rfl]

/-- Of a diamond of imports each module comes into the cache once, and four are counted. -/
theorem closure_of_compileFile_diamond : ∃ info after,
    ((ofSyntaxTrees {}).compileFile diamondFiles ⟨"a.brk"⟩).Leads .fresh (.ok info) after ∧
      {path | Relation.ReflTransGen after.cache.HasImport info.path path}.encard = 4 ∧
      ∃ exports, CommandLine.check diamondFiles false ⟨"a.brk"⟩ {} false =
        ⟨0, "✅ a (4 module(s) resolved)\n" ++ exports, ""⟩ := by
  have hcompiles : ((ofSyntaxTrees {}).compileFile diamondFiles ⟨"a.brk"⟩ .fresh).any (fun run =>
      run.1.toOption.any (·.path.text == "a") && run.2.cache.size == 4) = true := by
    decide +kernel
  obtain ⟨⟨outcome, after⟩, hcompile, hfour⟩ := (Option.any_eq_true _ _).mp hcompiles
  rw [Bool.and_eq_true, beq_iff_eq] at hfour
  obtain ⟨hok, hsize⟩ := hfour
  cases outcome with
  | error diagnostics => cases hok
  | ok info =>
      obtain ⟨-, -, -, hcard, hcheck⟩ := closure_of_compileFile {} diamondFiles ⟨"a.brk"⟩ hcompile
      obtain ⟨exports, hwritten⟩ := (hcheck false).1
      have hpath : info.path.text = "a" := eq_of_beq hok
      simp only at hsize
      rw [hsize] at hcard hwritten
      rw [hpath] at hwritten
      exact ⟨info, after, hcompile, by exact_mod_cast hcard, exports, hwritten⟩

end Compiler

end BriskModules
