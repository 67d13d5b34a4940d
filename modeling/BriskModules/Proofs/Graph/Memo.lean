import BriskModules.Proofs.Graph.Work

/-!
The cache as a memo under nesting.

A program calls a cache, and the closures that it hands over when it requires a path may call
the same cache again, to any depth. What it does is told from moment to moment. If it never
requires a path whose closure is still running, then every moment fits those around it: the
closure of a path runs when the path is required for the first time and never again, whoever
requires the path gets its result, and the cache tells the result from when there is one.

* `Cache.Program`, `Cache.Program.run`: programs and what they do;
* `Cache.Program.Reenters`: a path is required whose closure is still running;
* `Cache.Moment.Fits`: what a moment has to do with those before and after it;
* `Runs`, `runs_iff_leads`: the run of a program, call by call;
* `completes_iff_not_reenters`: the programs that complete are those that never do that;
* `History.Tells`: a history tells what is in a cache;
* `Runs.unfolds`: it goes on with moments that fit, and still tells what is in the cache;
* `memo_of_run` (**every closure runs once**).
-/

namespace BriskModules.Cache

/-! ### Programs -/

/-- What a program on a cache does, moment by moment. -/
inductive Moment (α : Type) where
  /-- A path is required. -/
  | required (path : ModulePath)
  /-- The closure starts to run that a path was required with. -/
  | started (path : ModulePath)
  /-- The closure has run and has a result. -/
  | finished (path : ModulePath) (result : CompileResult α)
  /-- Whoever required a path gets a result. -/
  | answered (path : ModulePath) (result : CompileResult α)
  /-- The cache is asked what became of a path. -/
  | lookedUp (path : ModulePath) (answer : Option (CompileResult α))
  /-- The cache is asked whether a path has been compiled. -/
  | asked (path : ModulePath) (answer : Bool)
  /-- The cache is asked for its size. -/
  | counted (size : ℕ)

/-- What a program has done, from the first moment to the last. -/
abbrev History (α : Type) := List (Moment α)

/-- What a program keeps beside the cache: a memory that its closures share, and its history. -/
structure Log (α τ : Type) where
  memory : τ
  history : History α

/-- A program of calls on a cache that ends with a result, as a closure does. Each call goes on
with what the cache answers. -/
inductive Program (α τ : Type) where
  | done (result : CompileResult α)
  /-- Changes the memory and goes on with what is in it then. -/
  | act (change : τ → τ) (next : τ → Program α τ)
  /-- Requires a path, with a closure that is a program itself. -/
  | require (path : ModulePath) (compile : Program α τ) (next : CompileResult α → Program α τ)
  | lookUp (path : ModulePath) (next : Option (CompileResult α) → Program α τ)
  | isCompiled (path : ModulePath) (next : Bool → Program α τ)
  | size (next : ℕ → Program α τ)

variable {α τ : Type}

/-- Adds a moment to the history. -/
def note (moment : Moment α) : Work α (Log α τ) Unit :=
  Work.changeRecord fun log => { log with history := log.history ++ [moment] }

/-- Requires a path of the cache and keeps record of it. -/
def requireNoted (path : ModulePath) (compile : Work α (Log α τ) (CompileResult α)) :
    Work α (Log α τ) (CompileResult α) := do
  note (.required path)
  let result ← Cache.requireWith path do
    note (.started path)
    let result ← compile
    note (.finished path result)
    return result
  note (.answered path result)
  return result

/-- Runs a program. -/
def Program.run : Program α τ → Work α (Log α τ) (CompileResult α)
  | .done result => return result
  | .act change next => do
    Work.changeRecord fun log => { log with memory := change log.memory }
    run (next (← get).record.memory)
  | .require path compile next => do
    let result ← requireNoted path (run compile)
    run (next result)
  | .lookUp path next => do
    let answer := (← get).cache.get? path
    note (.lookedUp path answer)
    run (next answer)
  | .isCompiled path next => do
    let answer := (← get).cache.isCompiled path
    note (.asked path answer)
    run (next answer)
  | .size next => do
    let answer := (← get).cache.size
    note (.counted answer)
    run (next answer)

end Cache

/-! ### Sessions of a program -/

namespace Session

open Cache

variable {α τ : Type}

/-- A session in which nothing has been done, with a memory. -/
def unused (memory : τ) : Session α (Log α τ) := ⟨.empty, memory, []⟩

/-- The session after the memory has been changed. -/
def remembered (session : Session α (Log α τ)) (change : τ → τ) : Session α (Log α τ) :=
  ⟨session.cache, change session.record.memory, session.record.history⟩

/-- The session after some moments. -/
def told (session : Session α (Log α τ)) (moments : History α) : Session α (Log α τ) :=
  ⟨session.cache, session.record.memory, session.record.history ++ moments⟩

/-- The session in which the closure of a path that is required starts to run. -/
def begun (session : Session α (Log α τ)) (path : ModulePath) : Session α (Log α τ) :=
  ⟨session.cache.start path, session.record.memory,
    session.record.history ++ [.required path, .started path]⟩

/-- The session after the closure of a path that is required has run. -/
def ended (session : Session α (Log α τ)) (path : ModulePath) (result : CompileResult α) :
    Session α (Log α τ) :=
  ⟨session.cache.finish path result, session.record.memory,
    session.record.history ++ [.finished path result, .answered path result]⟩

end Session

namespace Cache

variable {α τ : Type}

/-- In the run of a program a path is required whose closure is still running; `running` are the
paths whose closures are running when it starts. -/
inductive Program.Reenters :
    List ModulePath → Program α τ → Session α (Log α τ) → Prop where
  | again {running : List ModulePath} {path : ModulePath} {compile : Program α τ}
      {next : CompileResult α → Program α τ} {session : Session α (Log α τ)}
      (isRunning : path ∈ running) : Reenters running (.require path compile next) session
  | inside {running : List ModulePath} {path : ModulePath} {compile : Program α τ}
      {next : CompileResult α → Program α τ} {session : Session α (Log α τ)}
      (cell : session.cache.cells[path]? = none)
      (inner : Reenters (path :: running) compile (session.begun path)) :
      Reenters running (.require path compile next) session
  | later {running : List ModulePath} {path : ModulePath} {compile : Program α τ}
      {next : CompileResult α → Program α τ} {session middle : Session α (Log α τ)}
      {result : CompileResult α}
      (answered : (requireNoted path compile.run).Leads session result middle)
      (rest : Reenters running (next result) middle) :
      Reenters running (.require path compile next) session
  | act {running : List ModulePath} {change : τ → τ} {next : τ → Program α τ}
      {session : Session α (Log α τ)}
      (rest : Reenters running (next (change session.record.memory))
        (session.remembered change)) :
      Reenters running (.act change next) session
  | lookUp {running : List ModulePath} {path : ModulePath}
      {next : Option (CompileResult α) → Program α τ} {session : Session α (Log α τ)}
      (rest : Reenters running (next (session.cache.get? path))
        (session.told [.lookedUp path (session.cache.get? path)])) :
      Reenters running (.lookUp path next) session
  | isCompiled {running : List ModulePath} {path : ModulePath} {next : Bool → Program α τ}
      {session : Session α (Log α τ)}
      (rest : Reenters running (next (session.cache.isCompiled path))
        (session.told [.asked path (session.cache.isCompiled path)])) :
      Reenters running (.isCompiled path next) session
  | size {running : List ModulePath} {next : ℕ → Program α τ}
      {session : Session α (Log α τ)}
      (rest : Reenters running (next session.cache.size)
        (session.told [.counted session.cache.size])) :
      Reenters running (.size next) session

/-! ### Moments that fit -/

/-- What a moment has to do with the moments before it and after it: a path that is required
again is answered at once, and one that is required for the first time is answered with what
its closure results in; the closure of a path never starts twice; and what the cache tells is
what the closures that have run have resulted in, and how many paths have been required. -/
def Moment.Fits (before after : History α) : Moment α → Prop
  | .required path =>
    (.required path ∈ before → ∃ result rest, after = .answered path result :: rest) ∧
    (.required path ∉ before → ∃ inner result rest, after =
      .started path :: (inner ++ .finished path result :: .answered path result :: rest))
  | .started path => before.getLast? = some (.required path) ∧ .started path ∉ before
  | .finished path _ => .started path ∈ before ∧ ∀ other, .finished path other ∉ before
  | .answered path result => .finished path result ∈ before
  | .lookedUp path answer => ∀ result, answer = some result ↔ .finished path result ∈ before
  | .asked path answer => answer = true ↔ ∃ result, .finished path result ∈ before
  | .counted size => size = {path | .required path ∈ before}.ncard

/-- What comes later does not matter to whether a moment fits. -/
lemma Moment.Fits.append {moment : Moment α} {before after : History α}
    (h : moment.Fits before after) (more : History α) : moment.Fits before (after ++ more) := by
  cases moment with
  | required path =>
      refine ⟨fun hagain => ?_, fun hfirst => ?_⟩
      · obtain ⟨result, rest, rfl⟩ := h.1 hagain
        exact ⟨result, rest ++ more, rfl⟩
      · obtain ⟨inner, result, rest, rfl⟩ := h.2 hfirst
        exact ⟨inner, result, rest ++ more, by simp⟩
  | _ => exact h

/-- Each of some moments fits the ones around it, when others come before them. -/
def History.Unfolds (earlier moments : History α) : Prop :=
  ∀ front moment rest, moments = front ++ moment :: rest → moment.Fits (earlier ++ front) rest

namespace History

variable {earlier first second : History α} {moment : Moment α}

lemma unfolds_nil : Unfolds earlier [] := by
  intro front moment rest h
  simp at h

lemma unfolds_cons (hfits : moment.Fits earlier first) (h : Unfolds (earlier ++ [moment]) first) :
    Unfolds earlier (moment :: first) := by
  intro front other rest heq
  cases front with
  | nil =>
      obtain ⟨rfl, rfl⟩ := List.cons.inj heq
      rwa [List.append_nil]
  | cons head front =>
      obtain ⟨rfl, rfl⟩ := List.cons.inj heq
      have hother := h front other rest rfl
      rwa [List.append_assoc, List.singleton_append] at hother

lemma Unfolds.append (h₁ : Unfolds earlier first) (h₂ : Unfolds (earlier ++ first) second) :
    Unfolds earlier (first ++ second) := by
  intro front moment rest heq
  rcases List.append_eq_append_iff.mp heq with ⟨middle, rfl, hsecond⟩ | ⟨middle, hfirst, hrest⟩
  · rw [← List.append_assoc]
    exact h₂ middle moment rest hsecond
  · cases middle with
    | nil =>
        rw [List.append_nil] at hfirst
        subst hfirst
        have hmoment := h₂ [] moment rest hrest.symm
        rwa [List.append_nil] at hmoment
    | cons head middle =>
        obtain ⟨rfl, rfl⟩ := List.cons.inj hrest
        exact (h₁ front moment middle hfirst).append second

end History

/-! ### Runs -/

/-- A path that is required is answered with what is in its cell, or with what its closure, which
runs now, results in. -/
lemma leads_requireNoted {path : ModulePath} {compile : Work α (Log α τ) (CompileResult α)}
    {before after : Session α (Log α τ)} {result : CompileResult α} :
    (requireNoted path compile).Leads before result after ↔
      (before.cache.cells[path]? = some (.done result) ∧
        after = before.told [.required path, .answered path result]) ∨
      (before.cache.cells[path]? = none ∧ ∃ middle,
        compile.Leads (before.begun path) result middle ∧ after = middle.ended path result) := by
  have hnoted : ∀ (session : Session α (Log α τ)) (first second : Moment α),
      (session.told [first]).told [second] = session.told [first, second] := fun _ _ _ => by
    simp [Session.told]
  simp only [requireNoted, note, Work.leads_bind, Work.leads_changeRecord, Work.leads_pure,
    Work.leads_requireWith_iff]
  constructor
  · rintro ⟨_, _, rfl, found, _, (⟨hcell, rfl⟩ | ⟨hcell, _, hcompile, rfl⟩), _, _, rfl, rfl, rfl⟩
    · exact .inl ⟨hcell, hnoted before _ _⟩
    · obtain ⟨_, _, rfl, _, last, hcompile, _, _, rfl, rfl, rfl⟩ := hcompile
      refine .inr ⟨hcell, last, ?_, by simp [Session.ended]⟩
      simpa [Session.begun] using hcompile
  · rintro (⟨hcell, rfl⟩ | ⟨hcell, middle, hcompile, rfl⟩)
    · exact ⟨(), _, rfl, result, _, .inl ⟨hcell, rfl⟩, (), _, rfl, rfl, (hnoted before _ _).symm⟩
    · refine ⟨(), _, rfl, result, _, .inr ⟨hcell, _, ⟨(), _, rfl, result, middle, ?_, (), _, rfl,
        rfl, rfl⟩, rfl⟩, (), _, rfl, rfl, by simp [Session.ended]⟩
      simpa [Session.begun] using hcompile

namespace Program

/-- The run of a program from one session to another one, call by call. -/
inductive Runs :
    Program α τ → Session α (Log α τ) → CompileResult α → Session α (Log α τ) → Prop where
  | done {result : CompileResult α} {session : Session α (Log α τ)} :
      Runs (.done result) session result session
  | act {change : τ → τ} {next : τ → Program α τ} {before after : Session α (Log α τ)}
      {result : CompileResult α}
      (rest : Runs (next (change before.record.memory)) (before.remembered change) result after) :
      Runs (.act change next) before result after
  | known {path : ModulePath} {compile : Program α τ} {next : CompileResult α → Program α τ}
      {before after : Session α (Log α τ)} {found result : CompileResult α}
      (cell : before.cache.cells[path]? = some (.done found))
      (rest : Runs (next found) (before.told [.required path, .answered path found]) result
        after) :
      Runs (.require path compile next) before result after
  | made {path : ModulePath} {compile : Program α τ} {next : CompileResult α → Program α τ}
      {before middle after : Session α (Log α τ)} {found result : CompileResult α}
      (cell : before.cache.cells[path]? = none)
      (inner : Runs compile (before.begun path) found middle)
      (rest : Runs (next found) (middle.ended path found) result after) :
      Runs (.require path compile next) before result after
  | lookUp {path : ModulePath} {next : Option (CompileResult α) → Program α τ}
      {before after : Session α (Log α τ)} {result : CompileResult α}
      (rest : Runs (next (before.cache.get? path))
        (before.told [.lookedUp path (before.cache.get? path)]) result after) :
      Runs (.lookUp path next) before result after
  | isCompiled {path : ModulePath} {next : Bool → Program α τ}
      {before after : Session α (Log α τ)} {result : CompileResult α}
      (rest : Runs (next (before.cache.isCompiled path))
        (before.told [.asked path (before.cache.isCompiled path)]) result after) :
      Runs (.isCompiled path next) before result after
  | size {next : ℕ → Program α τ} {before after : Session α (Log α τ)}
      {result : CompileResult α}
      (rest : Runs (next before.cache.size) (before.told [.counted before.cache.size]) result
        after) :
      Runs (.size next) before result after

variable {program : Program α τ} {before after session : Session α (Log α τ)}
  {result : CompileResult α} {running : List ModulePath}

lemma leads_of_runs (h : Runs program before result after) :
    program.run.Leads before result after := by
  induction h with
  | done => exact Work.leads_pure.mpr ⟨rfl, rfl⟩
  | act _ ih =>
      simp only [run, Work.leads_bind, Work.leads_changeRecord, Work.leads_get]
      exact ⟨(), _, rfl, _, _, ⟨rfl, rfl⟩, ih⟩
  | known cell _ ih =>
      rw [run, Work.leads_bind]
      exact ⟨_, _, leads_requireNoted.mpr (.inl ⟨cell, rfl⟩), ih⟩
  | made cell _ _ ihInner ih =>
      rw [run, Work.leads_bind]
      exact ⟨_, _, leads_requireNoted.mpr (.inr ⟨cell, _, ihInner, rfl⟩), ih⟩
  | lookUp _ ih | isCompiled _ ih | size _ ih =>
      simp only [run, note, Work.leads_bind, Work.leads_changeRecord, Work.leads_get]
      exact ⟨_, _, ⟨rfl, rfl⟩, (), _, rfl, ih⟩

lemma runs_of_leads (h : program.run.Leads before result after) :
    Runs program before result after := by
  induction program generalizing before result after with
  | done value =>
      obtain ⟨rfl, rfl⟩ := Work.leads_pure.mp h
      exact .done
  | act change next ih =>
      simp only [run, Work.leads_bind, Work.leads_changeRecord, Work.leads_get] at h
      obtain ⟨_, _, rfl, _, _, ⟨rfl, rfl⟩, h⟩ := h
      exact .act (ih _ h)
  | require path compile next ihCompile ih =>
      rw [run, Work.leads_bind] at h
      obtain ⟨found, middle, hrequire, h⟩ := h
      rcases leads_requireNoted.mp hrequire with ⟨hcell, rfl⟩ | ⟨hcell, last, hcompile, rfl⟩
      · exact .known hcell (ih _ h)
      · exact .made hcell (ihCompile hcompile) (ih _ h)
  | lookUp path next ih =>
      simp only [run, note, Work.leads_bind, Work.leads_changeRecord, Work.leads_get] at h
      obtain ⟨_, _, ⟨rfl, rfl⟩, _, _, rfl, h⟩ := h
      exact .lookUp (ih _ h)
  | isCompiled path next ih =>
      simp only [run, note, Work.leads_bind, Work.leads_changeRecord, Work.leads_get] at h
      obtain ⟨_, _, ⟨rfl, rfl⟩, _, _, rfl, h⟩ := h
      exact .isCompiled (ih _ h)
  | size next ih =>
      simp only [run, note, Work.leads_bind, Work.leads_changeRecord, Work.leads_get] at h
      obtain ⟨_, _, ⟨rfl, rfl⟩, _, _, rfl, h⟩ := h
      exact .size (ih _ h)

/-- A run leaves the same closures running. -/
lemma Runs.same_running (h : Runs program before result after) (path : ModulePath) :
    after.cache.cells[path]? = some .running ↔ before.cache.cells[path]? = some .running := by
  induction h with
  | done => rfl
  | act _ ih | known _ _ ih | lookUp _ ih | isCompiled _ ih | size _ ih => exact ih
  | @made required _ _ _ _ _ _ _ cell _ _ ihInner ih =>
      rw [ih]
      by_cases heq : path = required
      · simp [Session.ended, heq, cell]
      · simpa [Session.ended, Session.begun, heq] using ihInner

/-! ### Programs that complete -/

/-- A program that never requires a path whose closure is running completes. -/
lemma exists_runs (hfree : ¬ Reenters running program session)
    (hrunning : ∀ path : ModulePath,
      session.cache.cells[path]? = some .running → path ∈ running) :
    ∃ result after, Runs program session result after := by
  induction program generalizing running session with
  | done result => exact ⟨result, session, .done⟩
  | act change next ih =>
      obtain ⟨result, after, hrest⟩ : ∃ result after,
          Runs (next (change session.record.memory)) (session.remembered change) result after :=
        ih _ (fun h => hfree (.act h)) hrunning
      exact ⟨result, after, .act hrest⟩
  | require path compile next ihCompile ih =>
      cases hcell : session.cache.cells[path]? with
      | none =>
          have hbegun : ∀ other : ModulePath,
              (session.begun path).cache.cells[other]? = some .running →
                other ∈ path :: running := by
            intro other hother
            by_cases heq : other = path
            · exact List.mem_cons.mpr (.inl heq)
            · exact List.mem_cons_of_mem path
                (hrunning other (by simpa [Session.begun, heq] using hother))
          obtain ⟨found, middle, hinner⟩ := ihCompile (fun h => hfree (.inside hcell h)) hbegun
          have hanswered : (requireNoted path compile.run).Leads session found
              (middle.ended path found) :=
            leads_requireNoted.mpr (.inr ⟨hcell, middle, leads_of_runs hinner, rfl⟩)
          have hended : ∀ other : ModulePath,
              (middle.ended path found).cache.cells[other]? = some .running →
                other ∈ running := by
            intro other hother
            by_cases heq : other = path
            · simp [Session.ended, heq] at hother
            · have hmiddle := (hinner.same_running other).mp
                (by simpa [Session.ended, heq] using hother)
              exact hrunning other (by simpa [Session.begun, heq] using hmiddle)
          obtain ⟨result, after, hrest⟩ := ih found (fun h => hfree (.later hanswered h)) hended
          exact ⟨result, after, .made hcell hinner hrest⟩
      | some cell =>
          cases cell with
          | running => exact absurd (.again (hrunning path hcell)) hfree
          | done found =>
              have hanswered : (requireNoted path compile.run).Leads session found _ :=
                leads_requireNoted.mpr (.inl ⟨hcell, rfl⟩)
              obtain ⟨result, after, hrest⟩ := ih found (fun h => hfree (.later hanswered h))
                hrunning
              exact ⟨result, after, .known hcell hrest⟩
  | lookUp path next ih =>
      obtain ⟨result, after, hrest⟩ : ∃ result after,
          Runs (next _) (session.told [.lookedUp path (session.cache.get? path)]) result after :=
        ih _ (fun h => hfree (.lookUp h)) hrunning
      exact ⟨result, after, .lookUp hrest⟩
  | isCompiled path next ih =>
      obtain ⟨result, after, hrest⟩ : ∃ result after,
          Runs (next _) (session.told [.asked path (session.cache.isCompiled path)]) result after :=
        ih _ (fun h => hfree (.isCompiled h)) hrunning
      exact ⟨result, after, .isCompiled hrest⟩
  | size next ih =>
      obtain ⟨result, after, hrest⟩ : ∃ result after,
          Runs (next _) (session.told [.counted session.cache.size]) result after :=
        ih _ (fun h => hfree (.size h)) hrunning
      exact ⟨result, after, .size hrest⟩

/-- Requiring a path leaves the same closures running. -/
lemma running_requireNoted {path : ModulePath} {compile : Program α τ}
    {before after : Session α (Log α τ)} {result : CompileResult α}
    (h : (requireNoted path compile.run).Leads before result after) (other : ModulePath) :
    after.cache.cells[other]? = some .running ↔ before.cache.cells[other]? = some .running := by
  have hruns : Runs (.require path compile .done) before result after :=
    runs_of_leads (Work.leads_bind.mpr ⟨result, after, h, Work.leads_pure.mpr ⟨rfl, rfl⟩⟩)
  exact hruns.same_running other

/-- A program that requires a path whose closure is running never completes. -/
lemma Reenters.not_leads (h : Reenters running program session)
    (hrunning : ∀ path ∈ running, session.cache.cells[path]? = some .running) :
    ¬ program.run.Leads session result after := by
  intro hleads
  induction h generalizing result after with
  | @again running path compile next session isRunning =>
      have hcell := hrunning path isRunning
      obtain ⟨found, middle, hrequire, -⟩ := Work.leads_bind.mp hleads
      rcases leads_requireNoted.mp hrequire with ⟨hdone, -⟩ | ⟨hnone, -⟩
      · simp [hcell] at hdone
      · simp [hcell] at hnone
  | @inside running path compile next session cell _ ih =>
      obtain ⟨found, middle, hrequire, -⟩ := Work.leads_bind.mp hleads
      rcases leads_requireNoted.mp hrequire with ⟨hdone, -⟩ | ⟨-, last, hcompile, -⟩
      · simp [cell] at hdone
      · refine ih (fun other hother => ?_) hcompile
        rcases List.mem_cons.mp hother with rfl | hother
        · simp [Session.begun]
        · have hcell := hrunning other hother
          have hne : other ≠ path := by
            rintro rfl
            simp [cell] at hcell
          simpa [Session.begun, hne] using hcell
  | later answered _ ih =>
      obtain ⟨found, middle, hrequire, hrest⟩ := Work.leads_bind.mp hleads
      obtain ⟨rfl, rfl⟩ := hrequire.unique answered
      exact ih (fun other hother => (running_requireNoted hrequire other).mpr
        (hrunning other hother)) hrest
  | act _ ih => cases runs_of_leads hleads with | act rest => exact ih hrunning (leads_of_runs rest)
  | lookUp _ ih =>
      cases runs_of_leads hleads with | lookUp rest => exact ih hrunning (leads_of_runs rest)
  | isCompiled _ ih =>
      cases runs_of_leads hleads with | isCompiled rest => exact ih hrunning (leads_of_runs rest)
  | size _ ih =>
      cases runs_of_leads hleads with | size rest => exact ih hrunning (leads_of_runs rest)

/-- The programs that complete in an unused session are those that never require a path whose
closure is still running. -/
theorem completes_iff_not_reenters (program : Program α τ) (memory : τ) :
    program.run.Completes (.unused memory) ↔ ¬ Reenters [] program (.unused memory) := by
  constructor
  · rintro ⟨result, after, hleads⟩ hreenters
    exact hreenters.not_leads (by simp) hleads
  · intro hfree
    obtain ⟨result, after, hruns⟩ := exists_runs hfree (by simp [Session.unused])
    exact ⟨result, after, leads_of_runs hruns⟩

end Program

/-! ### Histories that tell what is in the cache -/

/-- A history tells what is in a cache: the paths that have a cell are those that have been
required, which are those whose closures have started, and the cells that are filled hold what
the closures have resulted in. -/
structure History.Tells (history : History α) (cache : Cache α) : Prop where
  required : ∀ path, .required path ∈ history ↔ cache.cells[path]? ≠ none
  started : ∀ path, .started path ∈ history ↔ cache.cells[path]? ≠ none
  finished : ∀ path result,
    .finished path result ∈ history ↔ cache.cells[path]? = some (.done result)

namespace History.Tells

variable {history : History α} {cache : Cache α} {path : ModulePath} {result : CompileResult α}

lemma empty : Tells ([] : History α) Cache.empty :=
  ⟨by simp, by simp, by simp⟩

/-- The cache is only asked for something. -/
lemma idle (h : history.Tells cache) {moment : Moment α}
    (hidle : (∀ path, moment ≠ .required path) ∧ (∀ path, moment ≠ .started path) ∧
      ∀ path result, moment ≠ .finished path result) : Tells (history ++ [moment]) cache where
  required other := by simp [h.required, (hidle.1 other).symm]
  started other := by simp [h.started, (hidle.2.1 other).symm]
  finished other result := by simp [h.finished, (hidle.2.2 other result).symm]

/-- A path that has a cell is required and answered. -/
lemma known (h : history.Tells cache) (hcell : cache.cells[path]? ≠ none) :
    Tells (history ++ [.required path, .answered path result]) cache where
  required other := by
    simp only [List.mem_append, List.mem_cons, Moment.required.injEq, List.not_mem_nil,
      reduceCtorEq, or_false, h.required]
    exact or_iff_left_of_imp fun heq => heq ▸ hcell
  started other := by simpa using h.started other
  finished other result := by simpa using h.finished other result

/-- A path without a cell is required, and its closure starts. -/
lemma begun (h : history.Tells cache) (hcell : cache.cells[path]? = none) :
    Tells (history ++ [.required path, .started path]) (cache.start path) where
  required other := by
    by_cases heq : other = path <;> simp [heq, h.required]
  started other := by
    by_cases heq : other = path <;> simp [heq, h.started]
  finished other result := by
    by_cases heq : other = path <;> simp [heq, h.finished, hcell]

/-- The closure of a path has run, and whoever required the path gets the result. -/
lemma ended (h : history.Tells cache) (hcell : cache.cells[path]? = some .running) :
    Tells (history ++ [.finished path result, .answered path result])
      (cache.finish path result) where
  required other := by
    by_cases heq : other = path <;> simp [heq, h.required, hcell]
  started other := by
    by_cases heq : other = path <;> simp [heq, h.started, hcell]
  finished other other' := by
    by_cases heq : other = path
    · simp [heq, h.finished, hcell, eq_comm]
    · simp [heq, h.finished]

/-- The paths that have been required are counted. -/
lemma size_eq (h : history.Tells cache) : cache.size = {path | .required path ∈ history}.ncard := by
  have hcells : {path | .required path ∈ history} = {path | cache.cells[path]? ≠ none} :=
    Set.ext h.required
  rw [hcells, Set.ncard, cache.encard_cells, ENat.toNat_natCast]

end History.Tells

namespace Program.Runs

variable {program : Program α τ} {before after : Session α (Log α τ)} {result : CompileResult α}

/-- **Each moment of a run fits**: a history that tells what is in the cache goes on with moments
that fit, and tells what is in the cache in the end. -/
lemma unfolds (h : Runs program before result after)
    (htells : before.record.history.Tells before.cache) :
    ∃ moments, after.record.history = before.record.history ++ moments ∧
      before.record.history.Unfolds moments ∧ after.record.history.Tells after.cache := by
  induction h with
  | done => exact ⟨[], by simp, History.unfolds_nil, htells⟩
  | act _ ih => exact ih htells
  | @known path _ _ session _ found _ cell _ ih =>
      obtain ⟨moments, hhistory, hmoments, hafter⟩ := ih (htells.known (by simp [cell]))
      refine ⟨.required path :: .answered path found :: moments, by simp [hhistory, Session.told],
        ?_, hafter⟩
      have hagain : .required path ∈ session.record.history :=
        (htells.required path).mpr (by simp [cell])
      have hfinished : .finished path found ∈ session.record.history :=
        (htells.finished path found).mpr cell
      refine History.unfolds_cons
        ⟨fun _ => ⟨found, moments, rfl⟩, fun hfirst => absurd hagain hfirst⟩
        (History.unfolds_cons (List.mem_append_left _ hfinished) ?_)
      simpa [Session.told] using hmoments
  | @made path _ _ session middle _ found _ cell inner _ ihInner ih =>
      obtain ⟨moments, hmiddle, hmoments, htellsMiddle⟩ := ihInner (htells.begun cell)
      have hrunning : middle.cache.cells[path]? = some .running :=
        (inner.same_running path).mpr (by simp [Session.begun])
      obtain ⟨more, hhistory, hmore, hafter⟩ := ih (htellsMiddle.ended hrunning)
      refine ⟨.required path :: .started path :: (moments ++ .finished path found ::
        .answered path found :: more), ?_, ?_, hafter⟩
      · simp [hhistory, Session.ended, hmiddle, Session.begun]
      · have hfirst : .required path ∉ session.record.history :=
          (htells.required path).not.mpr (by simp [cell])
        have hstarted : .started path ∉ session.record.history ++ [.required path] := by
          simpa using (htells.started path).not.mpr (by simp [cell])
        have hlast : session.record.history ++ [.required path] ++ [.started path] ++ moments =
            middle.record.history := by
          simp [hmiddle, Session.begun]
        refine History.unfolds_cons ⟨fun hagain => absurd hagain hfirst,
          fun _ => ⟨moments, found, more, rfl⟩⟩ (History.unfolds_cons ⟨by simp, hstarted⟩
            (History.Unfolds.append (by simpa [Session.begun] using hmoments) ?_))
        rw [hlast]
        refine History.unfolds_cons ⟨(htellsMiddle.started path).mpr (by simp [hrunning]),
          fun other => (htellsMiddle.finished path other).not.mpr (by simp [hrunning])⟩
            (History.unfolds_cons (by simp [Moment.Fits]) ?_)
        simpa [Session.ended] using hmore
  | @lookUp path _ session _ _ _ ih =>
      obtain ⟨moments, hhistory, hmoments, hafter⟩ := ih (htells.idle (by simp))
      refine ⟨.lookedUp path (session.cache.get? path) :: moments,
        by simpa [Session.told] using hhistory,
        History.unfolds_cons (fun found => ?_) hmoments, hafter⟩
      rw [Cache.get?_eq_some_iff, htells.finished]
  | @isCompiled path _ session _ _ _ ih =>
      obtain ⟨moments, hhistory, hmoments, hafter⟩ := ih (htells.idle (by simp))
      refine ⟨.asked path (session.cache.isCompiled path) :: moments,
        by simpa [Session.told] using hhistory, History.unfolds_cons ?_ hmoments, hafter⟩
      simp only [Moment.Fits, Cache.isCompiled, Option.isSome_iff_exists, Cache.get?_eq_some_iff,
        htells.finished]
  | @size _ session _ _ _ ih =>
      obtain ⟨moments, hhistory, hmoments, hafter⟩ := ih (htells.idle (by simp))
      exact ⟨.counted session.cache.size :: moments, by simpa [Session.told] using hhistory,
        History.unfolds_cons htells.size_eq hmoments, hafter⟩

end Program.Runs

/-- **The cache runs every closure once**: a program that never requires a path whose closure is
still running completes, however its closures call the cache, and each moment of it fits those
before and after it. -/
theorem memo_of_run (program : Program α τ) (memory : τ)
    (hfree : ¬ program.Reenters [] (.unused memory)) :
    ∃ result after, program.run.Leads (.unused memory) result after ∧
      ∀ front moment rest, after.record.history = front ++ moment :: rest →
        moment.Fits front rest := by
  obtain ⟨result, after, hleads⟩ := (Program.completes_iff_not_reenters program memory).mpr hfree
  obtain ⟨moments, hhistory, hmoments, -⟩ :=
    (Program.runs_of_leads hleads).unfolds History.Tells.empty
  refine ⟨result, after, hleads, fun front moment rest heq => ?_⟩
  have hhistory : after.record.history = moments := hhistory
  exact hmoments front moment rest (hhistory.symm.trans heq)

/-- A closure requires another path, whose closure asks for the first one and fails; then that
path is required again. -/
def nestedCalls : Program ℕ ℕ :=
  let outer : ModulePath := ⟨none, [], "outer"⟩
  let inner : ModulePath := ⟨none, [], "inner"⟩
  .require outer
    (.require inner
      (.act (· + 1) fun _ => .lookUp outer fun _ => .size fun _ => .done (.error ⟨inner, []⟩))
      .done)
    fun _ => .require inner (.done (.error ⟨outer, []⟩)) .done

/-- The inner closure runs once, and both who require its path get its failure. -/
theorem memo_of_run_nestedCalls :
    ¬ nestedCalls.Reenters [] (.unused 0) ∧
    ∃ result after, nestedCalls.run.Leads (.unused 0) result after ∧
      ∀ front moment rest, after.record.history = front ++ moment :: rest →
        moment.Fits front rest := by
  have hsome : (nestedCalls.run (.unused 0)).isSome = true := by decide +kernel
  obtain ⟨⟨result, after⟩, hleads⟩ := Option.isSome_iff_exists.mp hsome
  have hfree := (Program.completes_iff_not_reenters nestedCalls 0).mp ⟨result, after, hleads⟩
  exact ⟨hfree, memo_of_run nestedCalls 0 hfree⟩

end BriskModules.Cache
