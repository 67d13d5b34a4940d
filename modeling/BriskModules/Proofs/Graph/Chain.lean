import BriskModules.Proofs.Graph.Requests

/-!
Running modules and import chains.

A compiler requires each module at the end of a chain. For a request that starts a chain of
its own, the chain has no module twice and starts with the outermost module, and the modules
that are running are just those before its end. So no module is required while it is running.

* `Entered`: the invariant of a module that is required;
* `Compilation.adds`: one module whose imports are entered properly;
* `adds_requireWithin`: all modules below it;
* `entered_of_perform`: all modules that are required for a request;
* `Event.required?`, `diamondRequires`: what is required for the top of a diamond of imports.
-/

namespace BriskModules

variable {α : Type}

/-- How a module is required: at the end of a chain that has no module twice and starts with
the outermost one, while the modules before the end are running and no others. -/
structure Entered (outermost : Option ModulePath) (path : ModulePath) (chain : ImportChain)
    (running : List ModulePath) : Prop where
  nodup : chain.modules.Nodup
  first : chain.modules.head? = outermost
  last : chain.modules.getLast? = some path
  running : ∀ other : ModulePath, other ∈ running ↔ other ∈ chain.modules ∧ other ≠ path

/-- An event keeps to the chain if a module that is required by it is entered properly. -/
def Event.Proper (outermost : Option ModulePath) : Event α → Prop
  | .required path chain running => Entered outermost path chain running
  | _ => True

/-- The module that is required by an event, the chain and the running modules. -/
def Event.required? : Event α → Option (ModulePath × ImportChain × List ModulePath)
  | .required path chain running => some (path, chain, running)
  | _ => none

/-! ### The running modules of a session -/

namespace Session

variable {before after session : Session α (Journal α)} {chain : ImportChain}
  {path target : ModulePath} {outermost : Option ModulePath}

/-- The running modules of a session are those of the chain. -/
def Runs (session : Session α (Journal α)) (chain : ImportChain) : Prop :=
  ∀ path : ModulePath, session.cache.cells[path]? = some .running ↔ path ∈ chain.modules

lemma Grows.runs (h : before.Grows after) (hruns : before.Runs chain) : after.Runs chain :=
  fun path => (h.running path).trans (hruns path)

/-- Once a module that is entered has been started, all modules of the chain are running. -/
lemma runs_started (h : Entered outermost path chain session.cache.running) :
    (session.started path).Runs chain := by
  intro other
  have hother := h.running other
  rw [Cache.mem_running_iff] at hother
  rw [started, Cache.getElem?_start]
  split_ifs with heq
  · simpa [heq] using List.mem_of_getLast? h.last
  · rw [hother]
    simp [heq]

/-- While all modules of a chain are running, any other module can be entered. -/
lemma Runs.entered (h : session.Runs chain) (hnodup : chain.modules.Nodup)
    (hne : chain.modules ≠ []) (htarget : target ∉ chain.modules) :
    Entered chain.modules.head? target (chain.extend target) session.cache.running := by
  have hext := ImportChain.modules_extend chain target
  refine ⟨?_, ?_, by simp, fun other => ?_⟩
  · rw [hext, ← List.concat_eq_append, List.nodup_concat]
    exact ⟨htarget, hnodup⟩
  · rw [hext, List.head?_append_of_ne_nil _ hne]
  · rw [Cache.mem_running_iff, h other, hext]
    constructor
    · intro hother
      exact ⟨List.mem_append_left _ hother, fun heq => htarget (heq ▸ hother)⟩
    · rintro ⟨hother, hne⟩
      rcases List.mem_append.mp hother with hother | hother
      · exact hother
      · exact absurd (List.mem_singleton.mp hother) hne

end Session

/-! ### Compiling a module -/

section Steps

variable {requires : Requiring α} {outermost : Option ModulePath} {path : ModulePath}
  {chain : ImportChain} {before after : Session α (Journal α)}

variable {compiler : Compiler α} {fs : Filesystem} {result : CompileResult α}

/-- Compiling the module at the end of a chain while all of it is running keeps to the chain
if requiring a module that is entered does. -/
lemma Compiler.Compilation.adds (hreliable : requires.Reliable)
    (hrequires : ∀ {path chain before result after}, requires path chain before result after →
      Entered outermost path chain before.cache.running →
        Session.Adds (Event.Proper outermost) before after)
    (hnodup : chain.modules.Nodup) (hne : chain.modules ≠ [])
    (hfirst : chain.modules.head? = outermost) {file : FileName} (hruns : before.Runs chain)
    (h : compiler.Compilation fs requires path chain file before result after) :
    Session.Adds (Event.Proper outermost) before after := by
  have hkept : Session.Adds (Event.Proper outermost) before after ∧ after.Runs chain := by
    refine h.preserves (fun session => Session.Adds (Event.Proper outermost) before session ∧
      session.Runs chain) ?_ ?_ ⟨.refl before, hruns⟩
    · rintro session event hinner ⟨hadds, hsession⟩
      have hevent : event.Proper outermost := by cases event <;> trivial
      exact ⟨hadds.trans (Session.adds_noted session hevent), hsession⟩
    · -- a target is outside of the chain, so it is entered properly
      rintro unit - decl - target result first last - hnew hrequired ⟨hadds, hsession⟩
      have hentered := hsession.entered hnodup hne hnew
      rw [hfirst] at hentered
      exact ⟨hadds.trans (hrequires hrequired hentered),
        (hreliable.grows hrequired).runs hsession⟩
  exact hkept.1

end Steps

namespace Compiler

variable {compiler : Compiler α} {fs : Filesystem} {outermost : Option ModulePath}
  {path : ModulePath} {chain : ImportChain} {before after : Session α (Journal α)}
  {result : CompileResult α}

/-- Requiring a module that is entered keeps to the chain, however deep it nests modules. -/
lemma adds_requireWithin {depth : ℕ}
    (h : compiler.requiring fs depth path chain before result after)
    (hentered : Entered outermost path chain before.cache.running) :
    Session.Adds (Event.Proper outermost) before after := by
  refine requireWithin_induction (fun path chain before _ after =>
    Entered outermost path chain before.cache.running →
      Session.Adds (Event.Proper outermost) before after) ?_ depth h hentered
  intro requires hreliable hrequires path chain before result after hfills hentered
  have hnoted : Session.Adds (Event.Proper outermost) before
      (before.noted (.required path chain before.cache.running)) :=
    Session.adds_noted before hentered
  refine hnoted.trans (adds_of_search (fun file after _ hcompiles => ?_) hfills)
  have hne : chain.modules ≠ [] := by
    intro hnil
    simpa [hnil] using hentered.last
  have hruns : ((before.noted (.required path chain before.cache.running)).started path).Runs
      chain := Session.runs_started hentered
  exact hcompiles.adds hreliable hrequires hentered.nodup hne hentered.first hruns

/-- So does a request that starts a chain of its own. -/
lemma Performance.adds {request : Request} (hroot : request.outer = []) (hidle : before.Idle)
    (h : compiler.Performance fs request before after) :
    Session.Adds (Event.Proper (compiler.outermost fs request)) before after := by
  have hrunning : ∀ other : ModulePath, other ∉ before.cache.running := by
    intro other hother
    exact hidle other (Cache.mem_running_iff _ _ |>.mp hother)
  have hroot' : ∀ path : ModulePath,
      Entered (some path) path (.root path) before.cache.running := by
    intro path
    refine ⟨List.nodup_singleton path, rfl, rfl, fun other => ?_⟩
    simp [hrunning other]
  cases h with
  | underived => exact .refl _
  | @file depth file path _ _ _ derived fills =>
      have houtermost : compiler.outermost fs (.file file) = some path := by
        simp [outermost, derived, Except.toOption]
      rw [houtermost]
      refine adds_of_fills (fun after hcompiles => ?_) fills
      exact hcompiles.adds (reliable_requireWithin compiler fs depth) adds_requireWithin
        (List.nodup_singleton path) (by simp) rfl (Session.runs_started (hroot' path))
  | module depth required =>
      obtain rfl : _ = [] := hroot
      exact adds_requireWithin required (hroot' _)

/-- **No module is required while it is running**: whatever has been requested before, with whatever
files, none of which is a link, a further request that starts a chain of its own completes, and each
module that it requires is at the end of a chain without repetition that starts with the outermost
module, while the modules that are running are exactly the others of the chain. -/
theorem entered_of_perform (compiler : Compiler α) (requests : List (Filesystem × Request))
    (fs : Filesystem) {request : Request} (hroot : request.outer = []) :
    ∃ before after events, (compiler.performAll requests).Leads .fresh () before ∧
      (compiler.perform fs request).Leads before () after ∧
      after.record = before.record ++ events ∧
      ∀ path chain running, Event.required path chain running ∈ events →
        Entered (compiler.outermost fs request) path chain running ∧ path ∉ running := by
  obtain ⟨_, before, hbefore⟩ :=
    completes_performAll compiler requests Session.idle_fresh
  have hidle := (grows_performAll Session.idle_fresh hbefore).idle Session.idle_fresh
  obtain ⟨_, after, hafter⟩ := completes_perform compiler fs request hidle
  obtain ⟨events, hrecord, hevents⟩ := (performance_of_leads hafter).adds hroot hidle
  refine ⟨before, after, events, hbefore, hafter, hrecord, fun path chain running hmem => ?_⟩
  have hentered : Entered _ path chain running := hevents _ hmem
  exact ⟨hentered, fun hpath => ((hentered.running path).mp hpath).2 rfl⟩

/-- What is required when the top of a diamond of imports is compiled, with the chains and the
running modules: the two in the middle, and the bottom by either of them. -/
def diamondRequires : List (ModulePath × ImportChain × List ModulePath) :=
  [(⟨none, [], "b"⟩, ⟨[⟨none, [], "a"⟩, ⟨none, [], "b"⟩]⟩, [⟨none, [], "a"⟩]),
    (⟨none, [], "d"⟩, ⟨[⟨none, [], "a"⟩, ⟨none, [], "b"⟩, ⟨none, [], "d"⟩]⟩,
      [⟨none, [], "a"⟩, ⟨none, [], "b"⟩]),
    (⟨none, [], "c"⟩, ⟨[⟨none, [], "a"⟩, ⟨none, [], "c"⟩]⟩, [⟨none, [], "a"⟩]),
    (⟨none, [], "d"⟩, ⟨[⟨none, [], "a"⟩, ⟨none, [], "c"⟩, ⟨none, [], "d"⟩]⟩,
      [⟨none, [], "a"⟩, ⟨none, [], "c"⟩])]

/-- The top of the diamond is compiled from its file when the bottom is in the cache already. -/
theorem entered_of_perform_diamond :
    (Request.file ⟨"a.brk"⟩).outer = [] ∧
    ∃ before after events,
      ((ofSyntaxTrees {}).performAll [(diamondFiles, .module ⟨none, [], "d"⟩ [])]).Leads .fresh ()
        before ∧
      ((ofSyntaxTrees {}).perform diamondFiles (.file ⟨"a.brk"⟩)).Leads before () after ∧
      after.record = before.record ++ events ∧
      events.filterMap Event.required? = diamondRequires ∧
      ∀ path chain running, Event.required path chain running ∈ events →
        Entered (some ⟨none, [], "a"⟩) path chain running ∧ path ∉ running := by
  obtain ⟨before, after, events, hbefore, hafter, hrecord, hentered⟩ :=
    entered_of_perform (ofSyntaxTrees {}) [(diamondFiles, .module ⟨none, [], "d"⟩ [])]
      diamondFiles (show (Request.file ⟨"a.brk"⟩).outer = [] from rfl)
  have houtermost : (ofSyntaxTrees {}).outermost diamondFiles (.file ⟨"a.brk"⟩) =
      some ⟨none, [], "a"⟩ := by decide +kernel
  rw [houtermost] at hentered
  have hrun : ((ofSyntaxTrees {}).performAll [(diamondFiles, .module ⟨none, [], "d"⟩ [])]
      .fresh).any (fun first => ((ofSyntaxTrees {}).perform diamondFiles (.file ⟨"a.brk"⟩)
        first.2).any fun second =>
          (second.2.record.drop first.2.record.length).filterMap Event.required? =
            diamondRequires) = true := by
    decide +kernel
  rw [hbefore.any_eq, hafter.any_eq, hrecord, List.drop_left, decide_eq_true_eq] at hrun
  exact ⟨rfl, before, after, events, hbefore, hafter, hrecord, hrun, hentered⟩

end Compiler

end BriskModules
