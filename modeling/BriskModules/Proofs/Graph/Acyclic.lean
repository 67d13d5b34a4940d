import BriskModules.Proofs.Graph.Origin

/-!
The graph of compiled modules.

A module comes into the cache after all of its imports. So the modules can be ranked such
that each has a higher rank than its imports, whatever happens to the files and whatever
chains modules are required in, and no module imports itself over others.

* `Linked`: what holds of a module and its imports in a cache;
* `Cache.Ranked`, `Cache.Sound`: what holds of a cache;
* `Cache.Sound.finish`: it still holds when a cell is filled;
* `sound_of_fills`: it still holds when a module has been compiled;
* `acyclic_of_performAll`: it holds whenever all requests have been done.
-/

namespace BriskModules

variable {α : Type}

/-- What holds of a compiled module in a cache: it has its own path, no import comes twice,
and each import has been compiled and may be imported. -/
structure Linked (cache : Cache α) (path : ModulePath) (info : ModuleInfo α) : Prop where
  own : info.path = path
  nodup : info.imports.Nodup
  imported : ∀ target ∈ info.imports, ∃ other : ModuleInfo α,
    cache.get? target = some (.ok other) ∧ Importable path target other

/-- A linked module is linked in a cache with more modules. -/
lemma Linked.mono {cache cache' : Cache α} {path : ModulePath} {info : ModuleInfo α}
    (h : Linked cache path info) (hstays : cache.StaysIn cache') : Linked cache' path info := by
  refine ⟨h.own, h.nodup, fun target htarget => ?_⟩
  obtain ⟨other, hother, himportable⟩ := h.imported target htarget
  exact ⟨other, hstays target _ hother, himportable⟩

/-- A module is linked to the modules of which it has been made. -/
lemma Compiler.CompiledFrom.linked {compiler : Compiler α} {fs : Filesystem} {cache : Cache α}
    {path : ModulePath} {info : ModuleInfo α} (h : compiler.CompiledFrom fs cache path info) :
    Linked cache path info := by
  obtain ⟨chain, unit, links, hmakes, hstored⟩ := h
  have himports := hmakes.records.imports
  refine ⟨hmakes.records.own, himports ▸ hmakes.nodup, fun target htarget => ?_⟩
  rw [himports] at htarget
  obtain ⟨link, hlink, rfl⟩ := List.mem_map.mp htarget
  exact ⟨link.module, hstored link hlink, (hmakes.admissible link hlink).importable⟩

namespace Cache

variable {cache cache' : Cache α} {path : ModulePath} {result : CompileResult α}

/-- A compiled module imports another one. -/
def HasImport (cache : Cache α) (path target : ModulePath) : Prop :=
  ∃ info : ModuleInfo α, cache.get? path = some (.ok info) ∧ target ∈ info.imports

/-- The compiled modules can be ranked above their imports. -/
def Ranked (cache : Cache α) : Prop :=
  ∃ rank : ModulePath → ℕ, ∀ path target, cache.HasImport path target → rank target < rank path

/-- A cache is sound if all its modules are linked and ranked. -/
structure Sound (cache : Cache α) : Prop where
  linked : ∀ path info, cache.get? path = some (.ok info) → Linked cache path info
  ranked : cache.Ranked

/-- Modules that are ranked above their imports do not import one another in a cycle. -/
lemma Ranked.not_transGen (h : cache.Ranked) (path : ModulePath) :
    ¬ Relation.TransGen cache.HasImport path path := by
  obtain ⟨rank, hrank⟩ := h
  have hlt : ∀ {first last : ModulePath}, Relation.TransGen cache.HasImport first last →
      rank last < rank first := by
    intro first last hpath
    induction hpath with
    | single himport => exact hrank _ _ himport
    | tail _ himport ih => exact (hrank _ _ himport).trans ih
  intro hcycle
  exact lt_irrefl _ (hlt hcycle)

lemma sound_empty : (empty : Cache α).Sound := by
  have hnone : ∀ path : ModulePath, (empty : Cache α).get? path = none := by
    simp [get?]
  refine ⟨fun path info h => ?_, fun _ => 0, ?_⟩
  · simp [hnone] at h
  · rintro path target ⟨info, h, -⟩
    simp [hnone] at h

/-- A cache is sound if another one that has the same results is. -/
lemma Sound.congr (h : cache.Sound) (heq : ∀ path, cache'.get? path = cache.get? path) :
    cache'.Sound := by
  obtain ⟨rank, hrank⟩ := h.ranked
  refine ⟨fun path info hinfo => ?_, rank, ?_⟩
  · rw [heq] at hinfo
    refine (h.linked path info hinfo).mono fun path result hresult => ?_
    rw [heq, hresult]
  · rintro path target ⟨info, hinfo, htarget⟩
    rw [heq] at hinfo
    exact hrank path target ⟨info, hinfo, htarget⟩

/-- A cell that is filled with a failure or a linked module leaves a cache sound: the new
module is ranked above its imports, which have been compiled before it. -/
lemma Sound.finish (h : cache.Sound) (hnone : cache.get? path = none)
    (hresult : ∀ info, result = .ok info → Linked cache path info) :
    (cache.finish path result).Sound := by
  have hstays := staysIn_finish hnone result
  have hlinked : ∀ other info, (cache.finish path result).get? other = some (.ok info) →
      Linked cache other info := by
    intro other info hinfo
    rw [get?_finish] at hinfo
    split_ifs at hinfo with heq
    · rw [heq]
      exact hresult info (Option.some.inj hinfo)
    · exact h.linked other info hinfo
  refine ⟨fun other info hinfo => (hlinked other info hinfo).mono hstays, ?_⟩
  obtain ⟨rank, hrank⟩ := h.ranked
  let imports := (result.toOption.map ModuleInfo.imports).getD []
  refine ⟨fun other => if other = path then (imports.map rank).sum + 1 else rank other, ?_⟩
  rintro other target ⟨info, hinfo, htarget⟩
  -- an import is no module that is new
  have hne : target ≠ path := by
    rintro rfl
    obtain ⟨known, hknown, -⟩ := (hlinked other info hinfo).imported target htarget
    simp [hnone] at hknown
  rw [get?_finish] at hinfo
  by_cases heq : other = path
  · rw [if_pos heq, Option.some.injEq] at hinfo
    have himports : imports = info.imports := by
      simp only [imports, hinfo]
      rfl
    have hmem : rank target ∈ imports.map rank := himports ▸ List.mem_map_of_mem htarget
    have hle := List.le_sum_of_mem hmem
    simp only [hne, heq, ↓reduceIte]
    omega
  · rw [if_neg heq] at hinfo
    simp only [hne, heq, ↓reduceIte]
    exact hrank other target ⟨info, hinfo, htarget⟩

end Cache

/-! ### Compiling modules -/

section Steps

variable {requires : Requiring α} {path : ModulePath} {chain : ImportChain}
  {before after : Session α (Journal α)}

variable {compiler : Compiler α} {fs : Filesystem} {result : CompileResult α}

namespace Compiler

/-- Compiling a module leaves a cache sound, and the module is linked there. -/
lemma Compilation.sound (hreliable : requires.Reliable)
    (hrequires : ∀ {path chain before result after}, requires path chain before result after →
      before.cache.Sound → after.cache.Sound)
    {file : FileName} (h : compiler.Compilation fs requires path chain file before result after)
    (hbefore : before.cache.Sound) :
    after.cache.Sound ∧ ∀ info, result = .ok info → Linked after.cache path info := by
  have hafter : after.cache.Sound := by
    refine h.preserves (·.cache.Sound) (fun _ _ _ hsession => hsession) ?_ hbefore
    intro unit parses decl hdecl target result first last hresolve hnew hrequired hfirst
    exact hrequires hrequired hfirst
  refine ⟨hafter, fun info hinfo => ?_⟩
  subst hinfo
  exact (h.compiledFrom hreliable).2.linked

/-- A module that is compiled while its cell is running comes into the cache as it should. -/
lemma sound_of_fills
    {makes : Session α (Journal α) → CompileResult α → Session α (Journal α) → Prop}
    (hmakes : ∀ before result after, makes before result after → before.cache.Sound →
      before.Grows after ∧ after.cache.Sound ∧
        ∀ info, result = .ok info → Linked after.cache path info)
    (h : Fills makes path before result after) (hbefore : before.cache.Sound) :
    after.cache.Sound := by
  cases h with
  | known cell => exact hbefore
  | made cell making =>
      have hstarted : (before.started path).cache.Sound :=
        hbefore.congr fun other => Cache.get?_start other cell
      obtain ⟨hgrows, hmiddle, hlinked⟩ := hmakes _ _ _ making hstarted
      exact hmiddle.finish hgrows.get?_eq_none hlinked

/-- Requiring a module leaves a cache sound. -/
lemma sound_requireWithin {depth : ℕ}
    (h : compiler.requiring fs depth path chain before result after)
    (hbefore : before.cache.Sound) : after.cache.Sound := by
  refine requireWithin_induction (fun _ _ before _ after =>
    before.cache.Sound → after.cache.Sound) ?_ depth h hbefore
  intro requires hreliable hrequires path chain before result after hfills hbefore
  refine sound_of_fills (fun first result last hsearch hfirst => ?_) hfills hbefore
  refine ⟨hsearch.grows hreliable, ?_⟩
  cases hsearch with
  | missing => exact ⟨hfirst, by simp⟩
  | found _ compiles => exact compiles.sound hreliable hrequires hfirst

/-- Performing a request leaves a cache sound. -/
lemma Performance.sound {request : Request}
    (h : compiler.Performance fs request before after) (hbefore : before.cache.Sound) :
    after.cache.Sound := by
  cases h with
  | underived => exact hbefore
  | file depth _ fills =>
      have hreliable := reliable_requireWithin compiler fs depth
      exact sound_of_fills (fun _ _ _ hcompiles hfirst =>
        ⟨hcompiles.grows hreliable, hcompiles.sound hreliable
          sound_requireWithin hfirst⟩) fills hbefore
  | module _ required => exact sound_requireWithin required hbefore

end Compiler

end Steps

/-- **The compiled modules form an acyclic graph**: when requests have been done, whatever became of
the files in between, as long as none is a link, each compiled module has its own path, has been
made of the unit in its file, as that was for one of the requests, and of compiled modules that are
still there, imports different compiled modules that may be imported, no module imports itself over
others, and what later requests do leaves all results as they are. -/
theorem acyclic_of_performAll (compiler : Compiler α)
    (requests later : List (Filesystem × Request)) :
    ∃ session after, (compiler.performAll requests).Leads .fresh () session ∧
      (compiler.performAll later).Leads session () after ∧
      (∀ path info, session.cache.get? path = some (.ok info) →
        info.path = path ∧ info.imports.Nodup ∧
          (∃ fs ∈ requests.map Prod.fst, compiler.CompiledFrom fs session.cache path info) ∧
          ∀ target ∈ info.imports, ∃ other : ModuleInfo α,
            session.cache.get? target = some (.ok other) ∧ other.isProgram = false ∧
              (other.isInternal = true → target.package = path.package)) ∧
      (∀ path, ¬ Relation.TransGen session.cache.HasImport path path) ∧
      ∀ path result, session.cache.get? path = some result →
        after.cache.get? path = some result := by
  obtain ⟨_, session, hsession⟩ :=
    Compiler.completes_performAll compiler requests Session.idle_fresh
  obtain ⟨hidle, hsound⟩ := Compiler.performAll_induction
    (fun session => session.cache.Sound)
    (fun _ _ _ _ _ hbefore hperformance => hperformance.sound hbefore)
    Session.idle_fresh Cache.sound_empty hsession
  obtain ⟨_, after, hafter⟩ := Compiler.completes_performAll compiler later hidle
  have hgrows := Compiler.grows_performAll hidle hafter
  refine ⟨session, after, hsession, hafter, ?_, hsound.ranked.not_transGen, hgrows.staysIn⟩
  intro path info hinfo
  have hlinked := hsound.linked path info hinfo
  have hcell := (Cache.get?_eq_some_iff _ _).mp hinfo
  obtain ⟨fs, hfs, horigin⟩ := Compiler.origin_performAll hsession path _ hcell info rfl
  refine ⟨hlinked.own, hlinked.nodup, ⟨fs, hfs, horigin.compiled⟩, fun target htarget => ?_⟩
  obtain ⟨other, hother, himportable⟩ := hlinked.imported target htarget
  exact ⟨other, hother, importable_iff.mp himportable⟩

end BriskModules
