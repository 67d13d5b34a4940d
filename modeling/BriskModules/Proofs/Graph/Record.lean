import BriskModules.Proofs.Graph.Requests

/-!
Whatever has been required has a result.

The journal tells which modules have been required. Each of them has a cell from then on,
and when all requests have been done, each has a result, and so has the outermost module of
each request.

* `Event.Celled`: the module that is required by an event has a cell;
* `Compilation.cells`: compiling a module requires only such modules;
* `Compiler.AskedFor`: the modules that requests lead to;
* `result_of_askedFor`: all of them have results.
-/

namespace BriskModules

variable {α : Type}

/-- A module that is required by an event has a cell in a session. -/
def Event.Celled (session : Session α (Journal α)) : Event α → Prop
  | .required path _ _ => session.cache.cells[path]? ≠ none
  | _ => True

section Growth

variable {before after : Session α (Journal α)}

/-- A cell is never removed. -/
lemma Session.Grows.cell {path : ModulePath} (h : before.Grows after)
    (hcell : before.cache.cells[path]? ≠ none) : after.cache.cells[path]? ≠ none := by
  cases hbefore : before.cache.cells[path]? with
  | none => exact absurd hbefore hcell
  | some cell =>
      cases cell with
      | running => simp [(h.running path).mpr hbefore]
      | done result => simp [h.keeps path result hbefore]

lemma Session.Grows.celled {event : Event α} (h : before.Grows after)
    (hevent : event.Celled before) : event.Celled after := by
  cases event with
  | required path chain running => exact h.cell hevent
  | parsed => trivial
  | refused => trivial
  | checked => trivial

/-- All modules that have been required on the way have cells in the end. -/
def Session.Cells (before after : Session α (Journal α)) : Prop :=
  Session.Adds (Event.Celled after) before after

lemma Session.Cells.trans {middle : Session α (Journal α)} (h₁ : before.Cells middle)
    (h₂ : middle.Cells after) (hgrows : middle.Grows after) : before.Cells after :=
  Session.Adds.trans (Session.Adds.mono h₁ fun _ => hgrows.celled) h₂

end Growth

/-! ### Compiling a module -/

section Steps

variable {requires : Requiring α} {path : ModulePath} {chain : ImportChain}
  {before after : Session α (Journal α)}

variable {compiler : Compiler α} {fs : Filesystem} {result : CompileResult α}

namespace Compiler

/-- Compiling a module requires modules that have cells in the end. -/
lemma Compilation.cells (hreliable : requires.Reliable)
    (hrequires : ∀ {path chain before result after}, requires path chain before result after →
      before.Cells after)
    {file : FileName}
    (h : compiler.Compilation fs requires path chain file before result after) :
    before.Cells after := by
  refine h.preserves (before.Cells ·) ?_ ?_ (.refl before)
  · intro session event hinner hcells
    have hevent : event.Celled (session.noted event) := by cases event <;> trivial
    exact hcells.trans (Session.adds_noted session hevent) ((Session.Grows.refl _).noted _)
  · intro unit parses decl hdecl target result first last hresolve hnew hrequired hcells
    exact hcells.trans (hrequires hrequired) (hreliable.grows hrequired)

/-- So does filling a cell. -/
lemma cells_of_fills
    {makes : Session α (Journal α) → CompileResult α → Session α (Journal α) → Prop}
    (hmakes : ∀ before result after, makes before result after →
      before.Grows after ∧ before.Cells after)
    (h : Fills makes path before result after) : before.Cells after := by
  cases h with
  | known cell => exact .refl _
  | made cell making =>
      obtain ⟨hgrows, events, hevents, hcelled⟩ := hmakes _ _ _ making
      refine ⟨events, hevents, fun event hevent => ?_⟩
      have hmiddle := hcelled event hevent
      cases event with
      | required other chain running =>
          simp only [Event.Celled, Session.finished, Cache.getElem?_finish]
          split_ifs
          · simp
          · exact hmiddle
      | parsed => trivial
      | refused => trivial
      | checked => trivial

/-- Requiring a module requires modules that have cells in the end. -/
lemma cells_requireWithin {depth : ℕ}
    (h : compiler.requiring fs depth path chain before result after) : before.Cells after := by
  refine requireWithin_induction (fun _ _ before _ after => before.Cells after) ?_ depth h
  intro requires hreliable hrequires path chain before result after hfills
  have hsearched : ∀ before result after,
      compiler.Search fs requires path chain before result after →
        before.Grows after ∧ before.Cells after := by
    intro before result after hsearch
    refine ⟨hsearch.grows hreliable, ?_⟩
    cases hsearch with
    | missing => exact .refl _
    | found _ compiles => exact compiles.cells hreliable hrequires
  have hcells := cells_of_fills hsearched hfills
  obtain ⟨-, hcell⟩ := grows_of_fills (fun _ _ _ hsearch => (hsearched _ _ _ hsearch).1) hfills
  have hevent : (Event.required path chain before.cache.running).Celled after := by
    simp [Event.Celled, hcell]
  exact Session.Adds.trans (Session.adds_noted before hevent) hcells

/-- Performing a request requires modules that have cells in the end. -/
lemma Performance.cells {request : Request}
    (h : compiler.Performance fs request before after) : before.Cells after := by
  cases h with
  | underived => exact .refl _
  | file depth _ fills =>
      have hreliable := reliable_requireWithin compiler fs depth
      exact cells_of_fills (fun _ _ _ hcompiles => ⟨hcompiles.grows hreliable,
        hcompiles.cells hreliable cells_requireWithin⟩) fills
  | module _ required => exact cells_requireWithin required

/-- The outermost module of a request that starts a chain of its own has a result. -/
lemma Performance.cell_of_outermost {request : Request} (hroot : request.outer = [])
    (h : compiler.Performance fs request before after)
    (houtermost : compiler.outermost fs request = some path) :
    ∃ result, after.cache.cells[path]? = some (.done result) := by
  cases h with
  | underived underived => simp [outermost, underived, Except.toOption] at houtermost
  | file depth derived fills =>
      simp only [outermost, derived, Except.toOption, Option.some.injEq] at houtermost
      subst houtermost
      exact ⟨_, (grows_compileWithin fills).2⟩
  | module depth required =>
      obtain rfl : _ = [] := hroot
      obtain rfl : _ = path := Option.some.inj houtermost
      exact ⟨_, (reliable_requireWithin compiler fs depth).stored required⟩

/-- A module has been asked for: it is the outermost one of a request, or it has been
required according to the journal. -/
def AskedFor (compiler : Compiler α) (requests : List (Filesystem × Request))
    (session : Session α (Journal α)) (path : ModulePath) : Prop :=
  (∃ served ∈ requests, compiler.outermost served.1 served.2 = some path) ∨
    ∃ chain running, Event.required path chain running ∈ session.record

/-- Whatever has been asked for has a result when all requests have been done. -/
theorem result_of_askedFor {requests : List (Filesystem × Request)}
    (hroots : ∀ served ∈ requests, served.2.outer = [])
    {session : Session α (Journal α)}
    (h : (compiler.performAll requests).Leads .fresh () session)
    (hasked : compiler.AskedFor requests session path) :
    ∃ result, session.cache.get? path = some result := by
  obtain ⟨hidle, hrecord⟩ := performAll_induction
    (fun session => ∀ event ∈ session.record, event.Celled session)
    (fun served _ before after _ hbefore hperformance event hevent => by
      obtain ⟨events, hevents, hcelled⟩ := hperformance.cells
      rw [hevents] at hevent
      rcases List.mem_append.mp hevent with hevent | hevent
      · exact hperformance.grows.celled (hbefore event hevent)
      · exact hcelled event hevent)
    Session.idle_fresh (by simp [Session.fresh]) h
  rcases hasked with ⟨served, hserved, houtermost⟩ | ⟨chain, running, hevent⟩
  · obtain ⟨first, rest, rfl⟩ := List.append_of_mem hserved
    obtain ⟨before, hfirst, hrest⟩ := leads_performAll_append.mp h
    obtain ⟨_, after, hperform, hmore⟩ := Work.leads_bind.mp hrest
    have hperformance := performance_of_leads hperform
    have hidle := (grows_performAll Session.idle_fresh hfirst).idle Session.idle_fresh
    obtain ⟨result, hresult⟩ :=
      hperformance.cell_of_outermost (hroots served hserved) houtermost
    have hgrows := grows_performAll (hperformance.grows.idle hidle) hmore
    exact ⟨result, (Cache.get?_eq_some_iff _ _).mpr (hgrows.keeps _ _ hresult)⟩
  · have hcell : session.cache.cells[path]? ≠ none := hrecord _ hevent
    cases hpath : session.cache.cells[path]? with
    | none => exact absurd hpath hcell
    | some cell =>
        cases cell with
        | running => exact absurd hpath (hidle path)
        | done result => exact ⟨result, (Cache.get?_eq_some_iff _ _).mpr hpath⟩

end Compiler

end Steps

end BriskModules
