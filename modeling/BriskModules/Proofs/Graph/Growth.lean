import BriskModules.Proofs.Graph.Steps

/-!
Sessions only grow.

Whatever is compiled, results that are in the cache stay there, the cells that are running
are the same before and after, and the journal is only added to. The result of a module that
has been required is in its cell.

* `Session.Grows`: one session comes after another one;
* `Session.Adds`: the events that have come to a journal in between;
* `Requiring.Reliable`: a way to require modules that lets sessions grow and keeps results;
* `reliable_requireWithin`: the compiler's way is reliable;
* `adds_of_fills`, `adds_of_search`: the events that come while a cell is filled;
* `requireWithin_induction`: what holds of every module that is required;
* `Checks.links`: imports that are all accepted become links to modules in the cache;
* `Checks.refusal`: an import is refused for itself or for the result of its target.
-/

namespace BriskModules

variable {α : Type}

/-- A session comes after another one: no result is lost, the same cells are running, and
the journal goes on. -/
structure Session.Grows (before after : Session α (Journal α)) : Prop where
  keeps : ∀ (path : ModulePath) (result : CompileResult α),
    before.cache.cells[path]? = some (.done result) →
      after.cache.cells[path]? = some (.done result)
  running : ∀ path : ModulePath, after.cache.cells[path]? = some .running ↔
    before.cache.cells[path]? = some .running
  recorded : before.record <+: after.record

namespace Session.Grows

variable {before middle after : Session α (Journal α)} {path : ModulePath}
  {result : CompileResult α}

lemma staysIn (h : before.Grows after) : before.cache.StaysIn after.cache := by
  intro path result hresult
  rw [Cache.get?_eq_some_iff] at hresult ⊢
  exact h.keeps path result hresult

/-- A module that has been started has no result as long as only others are compiled. -/
lemma get?_eq_none (h : (before.started path).Grows after) : after.cache.get? path = none := by
  have hrunning := (h.running path).mpr (by simp [started])
  simp [Cache.get?, hrunning]

lemma refl (session : Session α (Journal α)) : session.Grows session :=
  ⟨fun _ _ h => h, fun _ => Iff.rfl, List.prefix_refl _⟩

lemma trans (h₁ : before.Grows middle) (h₂ : middle.Grows after) : before.Grows after :=
  ⟨fun p r h => h₂.keeps p r (h₁.keeps p r h),
    fun p => (h₂.running p).trans (h₁.running p), h₁.recorded.trans h₂.recorded⟩

lemma noted (h : before.Grows after) (event : Event α) : before.Grows (after.noted event) :=
  ⟨h.keeps, h.running, h.recorded.trans (List.prefix_append _ _)⟩

/-- A module without a cell is compiled while its cell is running; when that is filled, only
the new result has come in. -/
lemma made (hcell : before.cache.cells[path]? = none)
    (h : (before.started path).Grows after) : before.Grows (after.finished path result) := by
  refine ⟨fun p r hp => ?_, fun p => ?_, h.recorded⟩
  · have hne : p ≠ path := by rintro rfl; simp [hcell] at hp
    have hstarted := h.keeps p r (by simp [started, hne, hp])
    simp [finished, hne, hstarted]
  · by_cases hpath : p = path
    · subst hpath
      simp [finished, hcell]
    · have hstarted := h.running p
      simp only [started, Cache.getElem?_start, hpath, ↓reduceIte] at hstarted
      simp [finished, hpath, hstarted]

end Session.Grows

/-! ### The journal of a session -/

namespace Session

/-- Between two sessions only events with a property have come to the journal. -/
def Adds (kind : Event α → Prop) (before after : Session α (Journal α)) : Prop :=
  ∃ events, after.record = before.record ++ events ∧ ∀ event ∈ events, kind event

variable {kind kind' : Event α → Prop} {before middle after : Session α (Journal α)}

lemma Adds.refl (session : Session α (Journal α)) : Adds kind session session :=
  ⟨[], by simp, by simp⟩

lemma Adds.trans (h₁ : Adds kind before middle) (h₂ : Adds kind middle after) :
    Adds kind before after := by
  obtain ⟨events, hevents, hkind⟩ := h₁
  obtain ⟨more, hmore, hkind'⟩ := h₂
  refine ⟨events ++ more, by rw [hmore, hevents, List.append_assoc], fun event hevent => ?_⟩
  rcases List.mem_append.mp hevent with hevent | hevent
  · exact hkind event hevent
  · exact hkind' event hevent

lemma adds_noted (session : Session α (Journal α)) {event : Event α} (h : kind event) :
    Adds kind session (session.noted event) :=
  ⟨[event], rfl, by simpa using h⟩

lemma Adds.mono (h : Adds kind before after) (hkind : ∀ event, kind event → kind' event) :
    Adds kind' before after := by
  obtain ⟨events, hevents, hall⟩ := h
  exact ⟨events, hevents, fun event hevent => hkind event (hall event hevent)⟩

end Session

/-! ### Reliable ways to require modules -/

/-- A way to require modules is reliable if sessions grow by it and the result is what the
cell of the module holds. -/
def Requiring.Reliable (requires : Requiring α) : Prop :=
  ∀ path chain before result after, requires path chain before result after →
    before.Grows after ∧ after.cache.cells[path]? = some (.done result)

section Reliable

variable {requires : Requiring α} {path : ModulePath} {chain : ImportChain}
  {before after : Session α (Journal α)} {result : CompileResult α}

lemma Requiring.Reliable.grows (h : requires.Reliable)
    (hrequired : requires path chain before result after) : before.Grows after :=
  (h path chain before result after hrequired).1

lemma Requiring.Reliable.stored (h : requires.Reliable)
    (hrequired : requires path chain before result after) :
    after.cache.cells[path]? = some (.done result) :=
  (h path chain before result after hrequired).2

end Reliable

/-! ### Checking imports -/

section Checks

variable {requires : Requiring α} {current : ModulePath} {decls : List Import}
  {imports imports' : Imports α} {errors : List ImportError}
  {before after : Session α (Journal α)}

/-- Checking imports lets a session grow. -/
lemma Checks.grows (hreliable : requires.Reliable)
    (h : Checks requires current decls imports before imports' errors after) :
    before.Grows after := by
  refine h.preserves (before.Grows ·) rfl ?_ (.refl before)
  intro decl hdecl target result first last hresolve hnew hrequired hgrows
  exact hgrows.trans (hreliable.grows hrequired)

/-- Imports that are all accepted become links: each leads to its target, where the cache has
a module that may be imported, and no target comes twice, is known before or is in the
chain. -/
lemma Checks.links (hreliable : requires.Reliable)
    (h : Checks requires current decls imports before imports' [] after) :
    ∃ links : List (Link α), links.map Link.decl = decls ∧ imports' = imports.addLinks links ∧
      (links.map Link.target).Nodup ∧
        ∀ link ∈ links, link.Admissible current ∧ link.target ∉ imports.chain.modules ∧
          imports.contains link.target = false ∧
            after.cache.cells[link.target]? = some (.done (.ok link.module)) := by
  generalize herrors : ([] : List ImportError) = errors at h
  induction h with
  | nil => exact ⟨[], rfl, rfl, List.nodup_nil, by simp⟩
  | refused => cases herrors
  | unaccepted => cases herrors
  | @registered decl more imports imports' errors target info before middle after targeted
      required importable rest ih =>
      obtain ⟨links, hdecls, himports, hnodup, hlinks⟩ := ih herrors
      obtain ⟨hresolves, hchain, hcontains, hwhitebox⟩ := importTarget_eq_ok_iff.mp targeted
      have hstored : after.cache.cells[target]? = some (.done (.ok info)) :=
        (rest.grows hreliable).keeps _ _ (hreliable.stored required)
      -- the check of the later imports knows the first target already
      have hnew : ∀ link ∈ links, link.target ≠ target ∧ imports.contains link.target = false := by
        intro link hlink
        have hknown := (hlinks link hlink).2.2.1
        rw [← Bool.not_eq_true, Imports.contains_register, not_or, Bool.not_eq_true] at hknown
        exact hknown
      refine ⟨⟨decl, target, info⟩ :: links, by rw [List.map_cons, hdecls], himports, ?_, ?_⟩
      · rw [List.map_cons, List.nodup_cons]
        refine ⟨fun hmem => ?_, hnodup⟩
        obtain ⟨link, hlink, htarget⟩ := List.mem_map.mp hmem
        exact (hnew link hlink).1 htarget
      · intro link hlink
        rcases List.mem_cons.mp hlink with rfl | hlink
        · exact ⟨⟨hresolves, hwhitebox, importable⟩, hchain, hcontains, hstored⟩
        · obtain ⟨hadmissible, hlinkChain, -, hlinkStored⟩ := hlinks link hlink
          exact ⟨hadmissible, hlinkChain, (hnew link hlink).2, hlinkStored⟩

/-- An import is refused for what is known before its target is required, or for the result of
its target, which is in the cache. -/
lemma Checks.refusal (hreliable : requires.Reliable)
    (h : Checks requires current decls imports before imports' errors after)
    {error : ImportError} (herror : error ∈ errors) :
    ∃ decl ∈ decls, (∃ known : Imports α, known.chain = imports.chain ∧
        importTarget decl current known = .error error) ∨
      ∃ target result, accept decl current target result = .error error ∧
        after.cache.cells[target]? = some (.done result) := by
  induction h with
  | nil => cases herror
  | refused untargeted _ ih =>
      rcases List.mem_cons.mp herror with rfl | herror
      · exact ⟨_, List.mem_cons_self, .inl ⟨_, rfl, untargeted⟩⟩
      · obtain ⟨decl, hdecl, hrefused⟩ := ih herror
        exact ⟨decl, List.mem_cons_of_mem _ hdecl, hrefused⟩
  | unaccepted _ required unaccepted rest ih =>
      rcases List.mem_cons.mp herror with rfl | herror
      · have hstored := (rest.grows hreliable).keeps _ _ (hreliable.stored required)
        exact ⟨_, List.mem_cons_self, .inr ⟨_, _, unaccepted, hstored⟩⟩
      · obtain ⟨decl, hdecl, hrefused⟩ := ih herror
        exact ⟨decl, List.mem_cons_of_mem _ hdecl, hrefused⟩
  | registered _ _ _ _ ih =>
      obtain ⟨decl, hdecl, hrefused⟩ := ih herror
      rw [Imports.chain_register] at hrefused
      exact ⟨decl, List.mem_cons_of_mem _ hdecl, hrefused⟩

end Checks

/-! ### Compiling modules -/

namespace Compiler

variable {compiler : Compiler α} {fs : Filesystem} {requires : Requiring α}
  {path : ModulePath} {chain : ImportChain} {file : FileName} {result : CompileResult α}
  {before after : Session α (Journal α)}

/-- Compiling a module lets a session grow. -/
lemma Compilation.grows (hreliable : requires.Reliable)
    (h : compiler.Compilation fs requires path chain file before result after) :
    before.Grows after := by
  refine h.preserves (before.Grows ·) (fun _ event _ hgrows => hgrows.noted event) ?_
    (.refl before)
  intro unit parses decl hdecl target result first last hresolve hnew hrequired hgrows
  exact hgrows.trans (hreliable.grows hrequired)

lemma Search.grows (hreliable : requires.Reliable)
    (h : compiler.Search fs requires path chain before result after) : before.Grows after := by
  cases h with
  | missing => exact .refl _
  | found _ compiles => exact compiles.grows hreliable

/-- Whatever fills the cell of a module lets the session grow and leaves the result there. -/
lemma grows_of_fills
    {makes : Session α (Journal α) → CompileResult α → Session α (Journal α) → Prop}
    (hmakes : ∀ before result after, makes before result after → before.Grows after)
    (h : Fills makes path before result after) :
    before.Grows after ∧ after.cache.cells[path]? = some (.done result) := by
  cases h with
  | known cell => exact ⟨.refl _, cell⟩
  | made cell making => exact ⟨.made cell (hmakes _ _ _ making), by simp [Session.finished]⟩

/-- The events that come while the cell of a module is filled are those of making it. -/
lemma adds_of_fills {kind : Event α → Prop}
    {makes : Session α (Journal α) → CompileResult α → Session α (Journal α) → Prop}
    (hmakes : ∀ after, makes (before.started path) result after →
      Session.Adds kind (before.started path) after)
    (h : Fills makes path before result after) : Session.Adds kind before after := by
  cases h with
  | known cell => exact .refl _
  | made cell making =>
      obtain ⟨events, hrecord, hkind⟩ := hmakes _ making
      exact ⟨events, hrecord, hkind⟩

/-- If the module is searched for, they are those of compiling it where it is located. -/
lemma adds_of_search {kind : Event α → Prop}
    (hfound : ∀ file after, compiler.locate fs path = .ok file →
      compiler.Compilation fs requires path chain file (before.started path) result after →
        Session.Adds kind (before.started path) after)
    (h : Fills (compiler.Search fs requires path chain) path before result after) :
    Session.Adds kind before after := by
  refine adds_of_fills (fun after hsearch => ?_) h
  cases hsearch with
  | missing => exact .refl _
  | found located compiles => exact hfound _ after located compiles

variable (compiler fs) in
/-- The compiler requires modules reliably, however deep they are nested. -/
lemma reliable_requireWithin (depth : ℕ) :
    (compiler.requiring fs depth).Reliable := by
  induction depth with
  | zero => intro path chain before result after h; exact absurd h Work.not_leads_stuck
  | succ depth ih =>
      intro path chain before result after h
      obtain ⟨hgrows, hcell⟩ :=
        grows_of_fills (fun _ _ _ hsearch => hsearch.grows ih) (search_of_leads h)
      exact ⟨((Session.Grows.refl _).noted _).trans hgrows, hcell⟩

/-- Compiling a module in the cache lets the session grow, and leaves the result there. -/
lemma grows_compileWithin {depth : ℕ}
    (h : Fills (compiler.Compilation fs (compiler.requiring fs depth) path chain file) path
      before result after) :
    before.Grows after ∧ after.cache.cells[path]? = some (.done result) :=
  grows_of_fills (fun _ _ _ hcompiles => hcompiles.grows (reliable_requireWithin compiler fs depth))
    h

/-- What holds of a module that is required, as long as it holds of all modules that are
required on the way, holds of every module that is required. -/
lemma requireWithin_induction (Kept : Requiring α)
    (step : ∀ requires : Requiring α, requires.Reliable →
      (∀ {path chain before result after}, requires path chain before result after →
        Kept path chain before result after) →
      ∀ path chain (before : Session α (Journal α)) result after,
        Fills (compiler.Search fs requires path chain) path
          (before.noted (.required path chain before.cache.running)) result after →
        Kept path chain before result after)
    (depth : ℕ) {path : ModulePath} {chain : ImportChain} {before after : Session α (Journal α)}
    {result : CompileResult α}
    (h : (compiler.requireWithin fs depth path chain).Leads before result after) :
    Kept path chain before result after := by
  induction depth generalizing path chain before result after with
  | zero => exact absurd h Work.not_leads_stuck
  | succ depth ih =>
      exact step _ (reliable_requireWithin compiler fs depth) ih _ _ _ _ _
        (search_of_leads h)

end Compiler

end BriskModules
