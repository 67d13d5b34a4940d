import BriskModules.Graph.Compiler
import Mathlib.Data.Set.Card
import Mathlib.Tactic

/-!
Work in a session, as a relation between the session before and the session after.

Work that never completes leads nowhere. What work leads to is told form by form: for work
that is done one after the other, for notes in the journal, and for a module that is
required through the cache, which is either known or compiled while its cell is running.

* `Cache.encard_cells`: a cache is as large as the set of its modules;
* `Cache.StaysIn`: the results of a cache are still there in another one;
* `Work.Leads`: from where to where some work leads, and with which result;
* `leads_bind`, `leads_changeRecord`, `leads_note`: the forms of work;
* `Leads.any_eq`: what a run is like, if where it leads is known;
* `leads_requireWith_iff`, `leads_requireWith`: requiring a module through the cache;
* `Work.Completes`: the work leads somewhere.
-/

namespace BriskModules

/-! ### The cells of a cache -/

namespace Cache

variable {α : Type} (cache : Cache α) (path other : ModulePath)

/-- A module whose cell is made has a running one, and all others keep theirs. -/
@[simp]
lemma getElem?_start :
    (cache.start path).cells[other]? =
      if other = path then some .running else cache.cells[other]? := by
  rw [start, Std.ExtTreeMap.getElem?_insert]
  simp only [Std.LawfulEqOrd.compare_eq_iff_eq, @eq_comm _ path]

/-- A module whose cell is filled has its result there, and all others keep theirs. -/
@[simp]
lemma getElem?_finish (result : CompileResult α) :
    (cache.finish path result).cells[other]? =
      if other = path then some (.done result) else cache.cells[other]? := by
  rw [finish, Std.ExtTreeMap.getElem?_insert]
  simp only [Std.LawfulEqOrd.compare_eq_iff_eq, @eq_comm _ path]

@[simp]
lemma getElem?_empty : (empty : Cache α).cells[path]? = none := by
  simp [empty]

/-- What became of a module is what its cell holds. -/
lemma get?_eq_some_iff {result : CompileResult α} :
    cache.get? path = some result ↔ cache.cells[path]? = some (.done result) := by
  unfold get?
  cases cache.cells[path]? with
  | none => simp
  | some cell => cases cell <;> simp

/-- What became of modules when a cell has been filled. -/
lemma get?_finish (result : CompileResult α) :
    (cache.finish path result).get? other =
      if other = path then some result else cache.get? other := by
  unfold get?
  rw [getElem?_finish]
  split_ifs <;> rfl

variable {cache path} in
/-- What became of modules does not change when a cell is made. -/
lemma get?_start (hnone : cache.cells[path]? = none) :
    (cache.start path).get? other = cache.get? other := by
  unfold get?
  rw [getElem?_start]
  split_ifs with heq
  · rw [heq, hnone]
  · rfl

/-- The modules that are being compiled are those with a running cell. -/
lemma mem_running_iff : path ∈ cache.running ↔ cache.cells[path]? = some .running := by
  have hrunning : cache.isRunning path = true ↔ cache.cells[path]? = some .running := by
    unfold isRunning
    cases cache.cells[path]? with
    | none => simp
    | some cell => cases cell <;> simp
  rw [running, List.mem_filter, hrunning, Std.ExtTreeMap.mem_keys]
  refine ⟨fun h => h.2, fun h => ⟨?_, h⟩⟩
  rw [Std.ExtTreeMap.mem_iff_isSome_getElem?, h]
  rfl

/-- A cache is as large as the set of modules that have a cell. -/
lemma encard_cells :
    {path : ModulePath | cache.cells[path]? ≠ none}.encard = cache.size := by
  have hkeys : {path : ModulePath | cache.cells[path]? ≠ none} = cache.cells.keys.toFinset := by
    ext path
    rw [List.coe_toFinset, Set.mem_ofPred_eq, Set.mem_ofPred_eq, Std.ExtTreeMap.mem_keys,
      Std.ExtTreeMap.mem_iff_isSome_getElem?, Option.isSome_iff_ne_none]
  rw [hkeys, Set.encard_coe_eq_coe_finsetCard,
    List.toFinset_card_of_nodup Std.ExtTreeMap.nodup_keys, Std.ExtTreeMap.length_keys, size]

/-- All results of a cache are in another one. -/
def StaysIn (cache cache' : Cache α) : Prop :=
  ∀ path result, cache.get? path = some result → cache'.get? path = some result

variable {cache path}

lemma staysIn_start (hnone : cache.cells[path]? = none) : cache.StaysIn (cache.start path) := by
  intro other result hresult
  rw [get?_start other hnone, hresult]

/-- No result is lost when the cell of a module is filled that had no result. -/
lemma staysIn_finish (hnone : cache.get? path = none) (result : CompileResult α) :
    cache.StaysIn (cache.finish path result) := by
  intro other known hknown
  have hne : other ≠ path := by
    rintro rfl
    simp [hnone] at hknown
  rw [get?_finish, if_neg hne, hknown]

end Cache

/-! ### Changes of a session -/

namespace Session

variable {α : Type}

/-- The session after an event. -/
def noted (session : Session α (Journal α)) (event : Event α) : Session α (Journal α) :=
  ⟨session.cache, session.record ++ [event]⟩

/-- The session after the cell of a module has been made. -/
def started (session : Session α (Journal α)) (path : ModulePath) :
    Session α (Journal α) :=
  ⟨session.cache.start path, session.record⟩

/-- The session after the cell of a module has been filled. -/
def finished (session : Session α (Journal α)) (path : ModulePath)
    (result : CompileResult α) : Session α (Journal α) :=
  ⟨session.cache.finish path result, session.record⟩

end Session

/-! ### Where work leads -/

namespace Work

variable {α τ ρ σ : Type}

/-- Work leads from one session to another and has a result. -/
def Leads (work : Work α τ ρ) (before : Session α τ) (result : ρ)
    (after : Session α τ) : Prop :=
  work before = some (result, after)

/-- Work that completes when it is done in a session. -/
def Completes (work : Work α τ ρ) (before : Session α τ) : Prop :=
  ∃ result after, work.Leads before result after

variable {before after : Session α τ} {result : ρ}

lemma leads_pure {value : ρ} :
    Leads (pure value : Work α τ ρ) before result after ↔ result = value ∧ after = before := by
  show some (value, before) = some (result, after) ↔ _
  simp only [Option.some.injEq, Prod.mk.injEq, eq_comm]

/-- Work done after other work starts where that ends. -/
lemma leads_bind {work : Work α τ σ} {next : σ → Work α τ ρ} :
    Leads (work >>= next) before result after ↔
      ∃ value middle, work.Leads before value middle ∧ (next value).Leads middle result after := by
  simp only [Leads, bind, StateT.bind, Option.bind_eq_some_iff, Prod.exists]

lemma not_leads_stuck : ¬ Leads (stuck : Work α τ ρ) before result after := by
  simp [Leads, stuck]

lemma leads_get {session : Session α τ} :
    Leads (get : Work α τ (Session α τ)) before session after ↔
      session = before ∧ after = before := by
  simp [Leads, get, getThe, MonadStateOf.get, StateT.get, pure, eq_comm]

lemma leads_changeCache {change : Cache α → Cache α} {value : Unit} :
    Leads (changeCache change) before value after ↔
      after = ⟨change before.cache, before.record⟩ := by
  simp [Leads, changeCache, modify, modifyGet, MonadStateOf.modifyGet, StateT.modifyGet, pure,
    eq_comm]

lemma leads_changeRecord {change : τ → τ} {value : Unit} :
    Leads (changeRecord change : Work α τ Unit) before value after ↔
      after = ⟨before.cache, change before.record⟩ := by
  simp [Leads, changeRecord, modify, modifyGet, MonadStateOf.modifyGet, StateT.modifyGet, pure,
    eq_comm]

lemma leads_note {before after : Session α (Journal α)} {event : Event α} {value : Unit} :
    Leads (Compiling.note event) before value after ↔ after = before.noted event := by
  rw [Compiling.note, leads_changeRecord, Session.noted]

/-- The same work cannot lead to two ends. -/
lemma Leads.unique {work : Work α τ ρ} {result' : ρ} {after' : Session α τ}
    (h : work.Leads before result after) (h' : work.Leads before result' after') :
    result = result' ∧ after = after' := by
  rw [Leads] at h h'
  simpa using h.symm.trans h'

/-- What is tested of a run is tested of where the work leads. -/
lemma Leads.any_eq {work : Work α τ ρ} (h : work.Leads before result after)
    (test : ρ × Session α τ → Bool) : (work before).any test = test (result, after) := by
  rw [show work before = some (result, after) from h, Option.any_some]

lemma completes_pure {value : ρ} : Completes (pure value : Work α τ ρ) before :=
  ⟨value, before, leads_pure.mpr ⟨rfl, rfl⟩⟩

lemma completes_note {event : Event α} {before : Session α (Journal α)} :
    Completes (Compiling.note event) before :=
  ⟨(), _, leads_note.mpr rfl⟩

/-- Work followed by other work completes if both do. -/
lemma Completes.bind {work : Work α τ σ} {next : σ → Work α τ ρ} (h : work.Completes before)
    (hnext : ∀ value middle, work.Leads before value middle → (next value).Completes middle) :
    Completes (work >>= next) before := by
  obtain ⟨value, middle, hwork⟩ := h
  obtain ⟨result, after, hresult⟩ := hnext value middle hwork
  exact ⟨result, after, leads_bind.mpr ⟨value, middle, hwork, hresult⟩⟩

end Work

/-! ### Requiring a module through the cache -/

/-- How a module is required, when `makes` tells how it is compiled: its result is known, or
it is compiled while its cell is running. -/
inductive Fills {α : Type}
    (makes : Session α (Journal α) → CompileResult α → Session α (Journal α) → Prop)
    (path : ModulePath) :
    Session α (Journal α) → CompileResult α → Session α (Journal α) → Prop where
  | known {before : Session α (Journal α)} {result : CompileResult α}
      (cell : before.cache.cells[path]? = some (.done result)) :
      Fills makes path before result before
  | made {before after : Session α (Journal α)} {result : CompileResult α}
      (cell : before.cache.cells[path]? = none)
      (making : makes (before.started path) result after) :
      Fills makes path before result (after.finished path result)

/-- Requiring a module leads nowhere but to what its cell holds, and if it has none, to where
compiling it leads while the cell is running. -/
lemma Work.leads_requireWith_iff {α τ : Type} {path : ModulePath}
    {compile : Work α τ (CompileResult α)} {before after : Session α τ}
    {result : CompileResult α} :
    (Cache.requireWith path compile).Leads before result after ↔
      (before.cache.cells[path]? = some (.done result) ∧ after = before) ∨
      (before.cache.cells[path]? = none ∧ ∃ middle,
        compile.Leads ⟨before.cache.start path, before.record⟩ result middle ∧
          after = ⟨middle.cache.finish path result, middle.record⟩) := by
  unfold Cache.requireWith
  rw [leads_bind]
  simp only [leads_get]
  constructor
  · rintro ⟨session, middle, ⟨hsession, hmiddle⟩, h⟩
    rw [hsession, hmiddle] at h
    cases hcell : before.cache.cells[path]? with
    | none =>
        simp only [hcell, leads_bind, leads_changeCache, leads_pure] at h
        obtain ⟨_, _, rfl, result, middle, hcompile, _, _, rfl, rfl, rfl⟩ := h
        exact .inr ⟨rfl, middle, hcompile, rfl⟩
    | some cell =>
        cases cell with
        | running =>
            simp only [hcell] at h
            exact absurd h not_leads_stuck
        | done known =>
            simp only [hcell, leads_pure] at h
            obtain ⟨rfl, rfl⟩ := h
            exact .inl ⟨rfl, rfl⟩
  · intro h
    refine ⟨before, before, ⟨rfl, rfl⟩, ?_⟩
    rcases h with ⟨hcell, rfl⟩ | ⟨hcell, middle, hcompile, rfl⟩
    · simp only [hcell, leads_pure, and_self]
    · simp only [hcell, leads_bind, leads_changeCache, leads_pure]
      exact ⟨(), _, rfl, _, _, hcompile, (), _, rfl, rfl, rfl⟩

/-- Requiring a module leads where it is known already, or where compiling it leads. -/
lemma Work.leads_requireWith {α : Type} {path : ModulePath}
    {compile : Compiling α (CompileResult α)} {before after : Session α (Journal α)}
    {result : CompileResult α} :
    (Cache.requireWith path compile).Leads before result after ↔
      Fills compile.Leads path before result after := by
  rw [leads_requireWith_iff]
  constructor
  · rintro (⟨hcell, rfl⟩ | ⟨hcell, middle, hcompile, rfl⟩)
    · exact .known hcell
    · exact .made hcell hcompile
  · rintro (hcell | ⟨hcell, hcompile⟩)
    · exact .inl ⟨hcell, rfl⟩
    · exact .inr ⟨hcell, _, hcompile, rfl⟩

/-- Requiring a module completes if its cell is not running and, where it has none, compiling
it completes. -/
lemma Work.completes_requireWith {α : Type} {path : ModulePath}
    {compile : Compiling α (CompileResult α)} {before : Session α (Journal α)}
    (hidle : before.cache.cells[path]? ≠ some .running)
    (hcompile : before.cache.cells[path]? = none → compile.Completes (before.started path)) :
    (Cache.requireWith path compile).Completes before := by
  cases hcell : before.cache.cells[path]? with
  | none =>
      obtain ⟨result, after, h⟩ := hcompile hcell
      exact ⟨result, _, leads_requireWith.mpr (.made hcell h)⟩
  | some cell =>
      cases cell with
      | running => exact absurd hcell hidle
      | done result => exact ⟨result, before, leads_requireWith.mpr (.known hcell)⟩

end BriskModules
