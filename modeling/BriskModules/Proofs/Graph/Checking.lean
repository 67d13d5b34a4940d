import BriskModules.Proofs.Graph.Closure
import BriskModules.Proofs.Graph.Record
import BriskModules.Proofs.Import.Registry

/-!
Each module is checked once, after its imports.

The journal tells when a module is handed to the frontend. A module is compiled while its cell
is running, and what is required on the way has no cell before. So the events that come while
the imports of a module are checked are about other modules, and the events about one module
are those of a single compilation. The artifacts that it gets come from the cache, where each
module has been put after it was checked.

* `Compiler.Checking`: what has been done when a unit is handed to the frontend;
* `Compiler.Due`: what an event needs to come after a journal;
* `Session.Documented`: the journal knows the modules in the cache, and the other way round;
* `Session.Unfolds`: each event that has come in between is due;
* `Compiler.Proceeds`: what happens between two sessions, and in which order;
* `Checks.proceeds`, `Compilation.proceeds`, `proceeds_requireWithin`: checking imports,
  compiling a module and requiring one proceed so;
* `checking_of_reached` (**each module is checked once, after its imports**).
-/

namespace BriskModules

variable {α : Type}

/-! ### Events about a module -/

namespace Event

/-- The module whose source is parsed. -/
def parsed? : Event α → Option ModulePath
  | .parsed path _ => some path
  | _ => none

/-- The module some imports of which are refused. -/
def refused? : Event α → Option ModulePath
  | .refused path _ => some path
  | _ => none

/-- The module that is checked. -/
def checked? : Event α → Option ModulePath
  | .checked path .. => some path
  | _ => none

/-- The module that is refused or checked. -/
def concluded? (event : Event α) : Option ModulePath := event.refused?.or event.checked?

/-- The module that is being compiled when an event comes. -/
def subject? (event : Event α) : Option ModulePath := event.parsed?.or event.concluded?

lemma subject?_of_parsed? {event : Event α} {path : ModulePath} (h : event.parsed? = some path) :
    event.subject? = some path := by
  rw [subject?, h, Option.some_or]

lemma subject?_of_concluded? {event : Event α} {path : ModulePath}
    (h : event.concluded? = some path) : event.subject? = some path := by
  cases event with
  | required | parsed => cases h
  | refused | checked => exact h

lemma concluded?_of_checked? {event : Event α} {path : ModulePath}
    (h : event.checked? = some path) : event.concluded? = some path ∧ event.refused? = none := by
  cases event with
  | checked => exact ⟨h, rfl⟩
  | required | parsed | refused => cases h

/-- An event about a module that has no cell in a session. -/
def IsNews (session : Session α (Journal α)) (event : Event α) : Prop :=
  ∀ path, event.subject? = some path → session.cache.cells[path]? = none

end Event

/-- Neither module is compiled again: what is parsed is new, and what is refused or checked has
been neither before. -/
structure Event.Apart (first second : Event α) : Prop where
  parsed : ∀ path, second.parsed? = some path → first.subject? ≠ some path
  concluded : ∀ path, second.concluded? = some path → first.concluded? ≠ some path

namespace Compiler

variable (compiler : Compiler α) (fs : Filesystem)

/-- What has been done when the unit of a module is handed to the frontend: the unit has been
parsed from the file of the module, each of its imports is admissible and leads to a module that
has been checked with success, and its exports have been inferred. -/
structure Checking (journal : Journal α) (path : ModulePath) (file : FileName)
    (unit : CompilationUnit) (chain : ImportChain) (links : List (Link α))
    (exports : ExportContext) : Prop where
  parsed : .parsed path file ∈ journal
  parses : compiler.Parses fs path file unit
  decls : links.map Link.decl = unit.imports
  admissible : ∀ link ∈ links, link.Admissible path
  compiled : ∀ link ∈ links, ∃ imports artifacts,
    .checked link.target imports artifacts (.ok link.module.checked) ∈ journal
  exported : inferExports unit path (.ofUnit unit)
    (.collect unit ((Imports.empty chain).addLinks links))
    ((Imports.empty chain).addLinks links).internal = .ok exports

/-- What an event needs to come after a journal. -/
def Due (journal : Journal α) (event : Event α) : Prop :=
  (∀ earlier ∈ journal, earlier.Apart event) ∧
  ∀ path imports artifacts result, event = .checked path imports artifacts result →
    ∃ file unit chain links exports,
      compiler.Checking fs journal path file unit chain links exports ∧
      imports = links.map Link.target ∧ artifacts = links.map (·.module.checked) ∧
      result = compiler.frontend.check unit ((Imports.empty chain).addLinks links) exports

end Compiler

/-! ### Journals that unfold -/

/-- A journal goes on as another one, and each event has a property that hangs on what is before
it. -/
inductive Journal.Unfolds (kind : Journal α → Event α → Prop) (journal : Journal α) :
    Journal α → Prop where
  | refl : Unfolds kind journal journal
  | noted {journal' : Journal α} {event : Event α} (unfolds : Unfolds kind journal journal')
      (due : kind journal' event) : Unfolds kind journal (journal' ++ [event])

namespace Journal.Unfolds

variable {kind : Journal α → Event α → Prop} {first middle last : Journal α}

lemma trans (h : Unfolds kind first middle) (h' : Unfolds kind middle last) :
    Unfolds kind first last := by
  induction h' with
  | refl => exact h
  | noted _ due ih => exact ih.noted due

/-- Each event that has come has the property where it stands. -/
lemma exists_events (h : Unfolds kind first last) : ∃ events, last = first ++ events ∧
    ∀ front event rest, events = front ++ event :: rest → kind (first ++ front) event := by
  induction h with
  | refl => exact ⟨[], by simp, by simp⟩
  | @noted journal' event _ due ih =>
      obtain ⟨events, rfl, hevents⟩ := ih
      refine ⟨events ++ [event], List.append_assoc _ _ _, fun front other rest heq => ?_⟩
      cases rest using List.reverseRecOn with
      | nil =>
          obtain ⟨rfl, hother⟩ := List.append_inj' heq rfl
          obtain rfl := List.singleton_inj.mp hother
          exact due
      | append_singleton more final =>
          rw [← List.cons_append, ← List.append_assoc] at heq
          exact hevents front other more (List.append_inj' heq rfl).1

/-- If the property keeps each event apart from those before it, all events are apart. -/
lemma pairwise {apart : Event α → Event α → Prop} (h : Unfolds kind first last)
    (hkind : ∀ journal event, kind journal event → ∀ earlier ∈ journal, apart earlier event)
    (hfirst : first.Pairwise apart) : last.Pairwise apart := by
  induction h with
  | refl => exact hfirst
  | noted _ due ih =>
      refine List.pairwise_append.mpr ⟨ih, List.pairwise_singleton _ _, fun earlier hearlier => ?_⟩
      simpa using hkind _ _ due earlier hearlier

end Journal.Unfolds

/-! ### Sessions and their journals -/

namespace Session

/-- The journal of a session knows of its modules: those that it tells of have cells, and those
that have been compiled with success have been checked with success. -/
structure Documented (session : Session α (Journal α)) : Prop where
  celled : ∀ event ∈ session.record, ∀ path, event.subject? = some path →
    session.cache.cells[path]? ≠ none
  checked : ∀ (path : ModulePath) (info : ModuleInfo α),
    session.cache.cells[path]? = some (.done (.ok info)) →
      ∃ imports artifacts, .checked path imports artifacts (.ok info.checked) ∈ session.record

namespace Documented

variable {session : Session α (Journal α)}

lemma fresh : (fresh : Session α (Journal α)).Documented :=
  ⟨by simp [Session.fresh], by simp [Session.fresh]⟩

/-- An event is documented if its module has a cell. -/
lemma noted (h : session.Documented) {event : Event α}
    (hcell : ∀ path, event.subject? = some path → session.cache.cells[path]? ≠ none) :
    (session.noted event).Documented where
  celled := by
    intro other hother
    rcases List.mem_append.mp hother with hother | hother
    · exact h.celled other hother
    · rw [List.mem_singleton.mp hother]
      exact hcell
  checked := by
    intro path info hinfo
    obtain ⟨imports, artifacts, hchecked⟩ := h.checked path info hinfo
    exact ⟨imports, artifacts, List.mem_append_left _ hchecked⟩

lemma started (h : session.Documented) (path : ModulePath) :
    (session.started path).Documented where
  celled := by
    intro event hevent other hother
    simp only [Session.started, Cache.getElem?_start]
    split_ifs
    · simp
    · exact h.celled event hevent other hother
  checked := by
    intro other info hinfo
    simp only [Session.started, Cache.getElem?_start] at hinfo
    split_ifs at hinfo
    · cases hinfo
    · exact h.checked other info hinfo

/-- A cell may be filled with a module that has been checked. -/
lemma finished (h : session.Documented) {path : ModulePath} {result : CompileResult α}
    (hresult : ∀ info, result = .ok info →
      ∃ imports artifacts, .checked path imports artifacts (.ok info.checked) ∈ session.record) :
    (session.finished path result).Documented where
  celled := by
    intro event hevent other hother
    simp only [Session.finished, Cache.getElem?_finish]
    split_ifs
    · simp
    · exact h.celled event hevent other hother
  checked := by
    intro other info hinfo
    simp only [Session.finished, Cache.getElem?_finish] at hinfo
    split_ifs at hinfo with heq
    · simp only [Option.some.injEq, Cell.done.injEq] at hinfo
      rw [heq]
      exact hresult info hinfo
    · exact h.checked other info hinfo

end Documented

end Session

/-! ### What happens between two sessions -/

namespace Compiler

variable {compiler : Compiler α} {fs : Filesystem} {requires : Requiring α} {path : ModulePath}
  {chain : ImportChain} {file : FileName} {result : CompileResult α}
  {before middle after session : Session α (Journal α)} {event : Event α}

variable (compiler fs) in
/-- Between two sessions no cell is removed, and whatever happens is documented, tells of modules
that had no cell before, and is due when it happens. -/
structure Proceeds (before after : Session α (Journal α)) : Prop where
  cells : ∀ path : ModulePath, before.cache.cells[path]? ≠ none →
    after.cache.cells[path]? ≠ none
  documented : after.Documented
  news : Session.Adds (Event.IsNews before) before after
  due : Journal.Unfolds (compiler.Due fs) before.record after.record

namespace Proceeds

lemma refl (h : before.Documented) : compiler.Proceeds fs before before :=
  ⟨fun _ hcell => hcell, h, .refl before, .refl⟩

lemma trans (h : compiler.Proceeds fs before middle) (h' : compiler.Proceeds fs middle after) :
    compiler.Proceeds fs before after := by
  refine ⟨fun path hcell => h'.cells path (h.cells path hcell), h'.documented,
    h.news.trans (h'.news.mono fun event hevent path hpath => ?_), h.due.trans h'.due⟩
  by_contra hcell
  exact h.cells path hcell (hevent path hpath)

lemma noted (h : compiler.Proceeds fs before session)
    (hcell : ∀ path, event.subject? = some path → session.cache.cells[path]? ≠ none)
    (hnews : event.IsNews before) (hdue : compiler.Due fs session.record event) :
    compiler.Proceeds fs before (session.noted event) :=
  ⟨h.cells, h.documented.noted hcell, h.news.trans (session.adds_noted hnews), h.due.noted hdue⟩

lemma started (h : before.Documented) (path : ModulePath) :
    compiler.Proceeds fs before (before.started path) := by
  refine ⟨fun other hother => ?_, h.started path, .refl before, .refl⟩
  simp only [Session.started, Cache.getElem?_start]
  split_ifs
  · simp
  · exact hother

lemma finished (h : compiler.Proceeds fs before session)
    (hresult : ∀ info, result = .ok info →
      ∃ imports artifacts, .checked path imports artifacts (.ok info.checked) ∈ session.record) :
    compiler.Proceeds fs before (session.finished path result) := by
  refine ⟨fun other hother => ?_, h.documented.finished hresult, h.news, h.due⟩
  simp only [Session.finished, Cache.getElem?_finish]
  split_ifs
  · simp
  · exact h.cells other hother

/-- A module that has a cell is concluded by no event that comes later. -/
lemma unconcluded (h : compiler.Proceeds fs before after)
    (hcell : before.cache.cells[path]? ≠ none)
    (hbefore : ∀ earlier ∈ before.record, earlier.concluded? ≠ some path) :
    ∀ earlier ∈ after.record, earlier.concluded? ≠ some path := by
  obtain ⟨events, hrecord, hnews⟩ := h.news
  intro earlier hearlier hconcluded
  rw [hrecord] at hearlier
  rcases List.mem_append.mp hearlier with hearlier | hearlier
  · exact hbefore earlier hearlier hconcluded
  · exact hcell (hnews earlier hearlier path (Event.subject?_of_concluded? hconcluded))

end Proceeds

/-! ### When events are due -/

section Due

variable {journal : Journal α}

lemma due_required (running : List ModulePath) :
    compiler.Due fs journal (.required path chain running) :=
  ⟨fun _ _ => ⟨by simp [Event.parsed?], by simp [Event.concluded?, Event.refused?, Event.checked?]⟩,
    by simp⟩

lemma due_parsed (h : ∀ earlier ∈ journal, earlier.subject? ≠ some path) :
    compiler.Due fs journal (.parsed path file) := by
  refine ⟨fun earlier hearlier => ⟨?_, ?_⟩, by simp⟩
  · rintro _ ⟨⟩
    exact h earlier hearlier
  · simp [Event.concluded?, Event.refused?, Event.checked?]

lemma due_refused (h : ∀ earlier ∈ journal, earlier.concluded? ≠ some path)
    (errors : List ImportError) : compiler.Due fs journal (.refused path errors) := by
  refine ⟨fun earlier hearlier => ⟨by simp [Event.parsed?], ?_⟩, by simp⟩
  rintro _ ⟨⟩
  exact h earlier hearlier

/-- A unit may be handed to the frontend when all has been done before, with the artifacts of its
imports in their order. -/
lemma due_checked (h : ∀ earlier ∈ journal, earlier.concluded? ≠ some path)
    {unit : CompilationUnit} {links : List (Link α)} {exports : ExportContext}
    (hchecking : compiler.Checking fs journal path file unit chain links exports)
    (hnodup : (links.map Link.target).Nodup) :
    compiler.Due fs journal (.checked path ((Imports.empty chain).addLinks links).paths
      ((Imports.empty chain).addLinks links).artifacts
      (compiler.frontend.check unit ((Imports.empty chain).addLinks links) exports)) := by
  refine ⟨fun earlier hearlier => ⟨by simp [Event.parsed?], ?_⟩, ?_⟩
  · rintro _ ⟨⟩
    exact h earlier hearlier
  · rintro _ _ _ _ ⟨⟩
    exact ⟨file, unit, chain, links, exports, hchecking, Imports.paths_addLinks_empty chain hnodup,
      Imports.artifacts_addLinks_empty chain hnodup, rfl⟩

end Due

/-! ### Compiling modules -/

variable (compiler fs) in
/-- A way to require modules by which sessions proceed. -/
def Orderly (requires : Requiring α) : Prop :=
  ∀ path chain before result after, requires path chain before result after →
    before.Documented → compiler.Proceeds fs before after

/-- Checking imports proceeds if requiring each of them does. -/
lemma proceeds_of_checks (hrequires : compiler.Orderly fs requires) {decls : List Import}
    {imports imports' : Imports α} {errors : List ImportError}
    (h : Checks requires path decls imports before imports' errors after)
    (hbefore : before.Documented) : compiler.Proceeds fs before after := by
  refine h.preserves (compiler.Proceeds fs before) rfl ?_ (.refl hbefore)
  intro decl hdecl target result first last hresolve hnew hrequired hproceeds
  exact hproceeds.trans (hrequires _ _ _ _ _ hrequired hproceeds.documented)

variable (compiler fs) in
/-- A module that had no cell before is being compiled: it has been parsed, and neither refused
nor checked. -/
structure Underway (before : Session α (Journal α)) (path : ModulePath) (file : FileName)
    (session : Session α (Journal α)) : Prop where
  new : before.cache.cells[path]? = none
  proceeds : compiler.Proceeds fs before session
  cell : session.cache.cells[path]? ≠ none
  parsed : .parsed path file ∈ session.record
  unconcluded : ∀ earlier ∈ session.record, earlier.concluded? ≠ some path

/-- An event about a module without a cell is news. -/
lemma isNews_of_subject? (hcell : before.cache.cells[path]? = none)
    (hsubject : event.subject? = some path) : event.IsNews before := by
  intro other hother
  obtain rfl := Option.some.inj (hsubject.symm.trans hother)
  exact hcell

/-- A module is underway once it has been parsed: a journal tells of no module without a cell. -/
lemma underway_parsed (hbefore : before.Documented) (hcell : before.cache.cells[path]? = none) :
    compiler.Underway fs before path file
      ((before.started path).noted (.parsed path file)) where
  new := hcell
  proceeds := by
    have hunheard : ∀ earlier ∈ before.record, earlier.subject? ≠ some path :=
      fun earlier hearlier hsubject => hbefore.celled earlier hearlier path hsubject hcell
    refine (Proceeds.started hbefore path).noted ?_ (isNews_of_subject? hcell rfl)
      (due_parsed hunheard)
    rintro _ ⟨⟩
    simp [Session.started]
  cell := by simp [Session.noted, Session.started]
  parsed := List.mem_append_right _ (List.mem_singleton_self _)
  unconcluded := by
    intro earlier hearlier hconcluded
    rcases List.mem_append.mp hearlier with hearlier | hearlier
    · exact hbefore.celled earlier hearlier path (Event.subject?_of_concluded? hconcluded) hcell
    · rw [List.mem_singleton.mp hearlier] at hconcluded
      cases hconcluded

/-- It still is while its imports are checked: what comes then is about other modules. -/
lemma Underway.checks (h : compiler.Underway fs before path file middle)
    (hreliable : requires.Reliable) (hrequires : compiler.Orderly fs requires)
    {decls : List Import} {imports imports' : Imports α} {errors : List ImportError}
    (hchecks : Checks requires path decls imports middle imports' errors after) :
    compiler.Underway fs before path file after := by
  have hproceeds := proceeds_of_checks hrequires hchecks h.proceeds.documented
  exact ⟨h.new, h.proceeds.trans hproceeds, hproceeds.cells path h.cell,
    (hchecks.grows hreliable).recorded.subset h.parsed,
    hproceeds.unconcluded h.cell h.unconcluded⟩

/-- Then it may be refused or checked. -/
lemma Underway.noted (h : compiler.Underway fs before path file session)
    (hsubject : event.subject? = some path) (hdue : compiler.Due fs session.record event) :
    compiler.Proceeds fs before (session.noted event) := by
  refine h.proceeds.noted (fun other hother => ?_) (isNews_of_subject? h.new hsubject) hdue
  obtain rfl := Option.some.inj (hsubject.symm.trans hother)
  exact h.cell

/-- If all imports of a module that is underway are accepted and its exports are inferred, it may
be checked: its imports have been, since they come from the cache. -/
lemma Underway.due (h : compiler.Underway fs before path file session)
    (hreliable : requires.Reliable) {unit : CompilationUnit} {imports : Imports α}
    {exports : ExportContext} (hparses : compiler.Parses fs path file unit)
    (hchecks : Checks requires path unit.imports (.empty chain) middle imports [] session)
    (hexported : inferExports unit path (.ofUnit unit) (.collect unit imports) imports.internal =
      .ok exports) :
    compiler.Due fs session.record (.checked path imports.paths imports.artifacts
      (compiler.frontend.check unit imports exports)) := by
  obtain ⟨links, hdecls, rfl, hnodup, hlinks⟩ := hchecks.links hreliable
  have hchecking : compiler.Checking fs session.record path file unit chain links exports :=
    ⟨h.parsed, hparses, hdecls, fun link hlink => (hlinks link hlink).1,
      fun link hlink => h.proceeds.documented.checked _ _ (hlinks link hlink).2.2.2, hexported⟩
  exact due_checked h.unconcluded hchecking hnodup

/-- Compiling a module that has no cell proceeds, and if there is a module in the end, it has
been checked with success. -/
lemma Compilation.proceeds (hreliable : requires.Reliable)
    (hrequires : compiler.Orderly fs requires) (hbefore : before.Documented)
    (hcell : before.cache.cells[path]? = none)
    (h : compiler.Compilation fs requires path chain file (before.started path) result after) :
    compiler.Proceeds fs before after ∧ ∀ info, result = .ok info →
      ∃ imports artifacts, .checked path imports artifacts (.ok info.checked) ∈ after.record := by
  have hparsed : compiler.Underway fs before path file
    ((before.started path).noted (.parsed path file)) := underway_parsed hbefore hcell
  cases h with
  | unreadable => exact ⟨.started hbefore path, by rintro _ ⟨⟩⟩
  | unparsed => exact ⟨hparsed.proceeds, by rintro _ ⟨⟩⟩
  | refused _ checks =>
      have hunderway := hparsed.checks hreliable hrequires checks
      exact ⟨hunderway.noted rfl (due_refused hunderway.unconcluded _), by rintro _ ⟨⟩⟩
  | leaking _ checks =>
      exact ⟨(hparsed.checks hreliable hrequires checks).proceeds, by rintro _ ⟨⟩⟩
  | illTyped parses checks exported checked =>
      have hunderway := hparsed.checks hreliable hrequires checks
      have hdue := hunderway.due hreliable parses checks exported
      rw [checked] at hdue
      exact ⟨hunderway.noted rfl hdue, by rintro _ ⟨⟩⟩
  | completed parses checks exported accepted =>
      have hunderway := hparsed.checks hreliable hrequires checks
      have hdue := hunderway.due hreliable parses checks exported
      rw [accepted] at hdue
      refine ⟨hunderway.noted rfl hdue, ?_⟩
      rintro _ ⟨⟩
      exact ⟨_, _, List.mem_append_right _ (List.mem_singleton_self _)⟩

/-- Filling the cell of a module proceeds if making it does. -/
lemma proceeds_of_fills
    {makes : Session α (Journal α) → CompileResult α → Session α (Journal α) → Prop}
    (hmakes : ∀ after, before.cache.cells[path]? = none →
      makes (before.started path) result after →
        compiler.Proceeds fs before after ∧ ∀ info, result = .ok info →
          ∃ imports artifacts, .checked path imports artifacts (.ok info.checked) ∈ after.record)
    (hbefore : before.Documented) (h : Fills makes path before result after) :
    compiler.Proceeds fs before after := by
  cases h with
  | known => exact .refl hbefore
  | made cell making =>
      obtain ⟨hproceeds, hchecked⟩ := hmakes _ cell making
      exact hproceeds.finished hchecked

variable (compiler fs) in
/-- Requiring modules proceeds, however deep they are nested. -/
lemma proceeds_requireWithin (depth : ℕ) :
    compiler.Orderly fs (compiler.requiring fs depth) := by
  intro path chain before result after h
  refine requireWithin_induction (fun _ _ before _ after => before.Documented →
    compiler.Proceeds fs before after) ?_ depth h
  intro requires hreliable hrequires path chain before result after hfills hbefore
  have hnoted : compiler.Proceeds fs before
      (before.noted (.required path chain before.cache.running)) :=
    (Proceeds.refl hbefore).noted (by rintro _ ⟨⟩) (by rintro _ ⟨⟩) (due_required _)
  refine hnoted.trans (proceeds_of_fills (fun last hcell hsearch => ?_) hnoted.documented hfills)
  cases hsearch with
  | missing => exact ⟨.started hnoted.documented path, by rintro _ ⟨⟩⟩
  | found _ compiles =>
      exact compiles.proceeds hreliable (fun _ _ _ _ _ => hrequires) hnoted.documented hcell

/-! ### Whatever has been called -/

variable (compiler) in
/-- A call that completes, with the files as they are then. -/
inductive Called (fs : Filesystem) : Session α (Journal α) → Session α (Journal α) → Prop where
  | compileFile {file : FileName} {before after : Session α (Journal α)}
      {outcome : Except (List Diagnostic) (ModuleInfo α)}
      (leads : (compiler.compileFile fs file).Leads before outcome after) : Called fs before after
  | require {path : ModulePath} {chain : ImportChain} {before after : Session α (Journal α)}
      {result : CompileResult α}
      (leads : (compiler.require fs path chain).Leads before result after) : Called fs before after

/-- A call proceeds. -/
lemma Called.proceeds (h : compiler.Called fs before after) (hbefore : before.Documented) :
    compiler.Proceeds fs before after := by
  cases h with
  | compileFile leads =>
      rcases compileFileWithin_of_leads leads with ⟨-, -, -, rfl⟩ | ⟨path, result, -, hfills, -⟩
      · exact .refl hbefore
      · exact proceeds_of_fills (fun after hcell hcompiles =>
          hcompiles.proceeds (reliable_requireWithin compiler fs _)
            (proceeds_requireWithin compiler fs _) hbefore hcell) hbefore hfills
  | require leads => exact proceeds_requireWithin compiler fs _ _ _ _ _ _ leads hbefore

/-- All calls so far have kept the journal in order. -/
lemma Reached.documented (h : compiler.Reached session) :
    session.Documented ∧ session.record.Pairwise Event.Apart := by
  have hcalled : ∀ {fs : Filesystem} {before after : Session α (Journal α)},
      compiler.Called fs before after →
        before.Documented ∧ before.record.Pairwise Event.Apart →
          after.Documented ∧ after.record.Pairwise Event.Apart := by
    rintro fs before after hcalled ⟨hdocumented, hapart⟩
    have hproceeds := hcalled.proceeds hdocumented
    exact ⟨hproceeds.documented, hproceeds.due.pairwise (fun _ _ hdue => hdue.1) hapart⟩
  induction h with
  | fresh => exact ⟨.fresh, .nil⟩
  | compileFile fs _ called ih => exact hcalled (.compileFile called) ih
  | require fs _ called ih => exact hcalled (.require called) ih

lemma Called.reached (h : compiler.Called fs before after) (hreached : compiler.Reached before) :
    compiler.Reached after := by
  cases h with
  | compileFile leads => exact .compileFile fs hreached leads
  | require leads => exact .require fs hreached leads

/-- If events that are apart are not about the same module, no module comes twice. -/
lemma nodup_of_apart {module? : Event α → Option ModulePath} {journal : Journal α}
    (h : journal.Pairwise Event.Apart)
    (hmodule : ∀ first second : Event α, first.Apart second → ∀ path,
      module? second = some path → module? first ≠ some path) :
    (journal.filterMap module?).Nodup := by
  rw [List.Nodup, List.pairwise_filterMap]
  refine h.imp fun {first second} hapart path hfirst path' hsecond heq => ?_
  rw [heq] at hfirst
  exact hmodule first second hapart path' hsecond hfirst

/-- If events with the same module are apart, no module is both refused and checked. -/
lemma notMem_refused_of_checked {journal : Journal α} (h : journal.Pairwise Event.Apart)
    (hchecked : path ∈ journal.filterMap Event.checked?) :
    path ∉ journal.filterMap Event.refused? := by
  intro hrefused
  obtain ⟨checked, hmem, hpath⟩ := List.mem_filterMap.mp hchecked
  obtain ⟨refused, hmem', hpath'⟩ := List.mem_filterMap.mp hrefused
  obtain ⟨hconcluded, hnot⟩ := Event.concluded?_of_checked? hpath
  have hne : refused ≠ checked := by
    rintro rfl
    rw [hnot] at hpath'
    cases hpath'
  -- it does not matter which of the two events comes first
  have hsymm : Std.Symm fun first second : Event α => ∀ path, first.concluded? = some path →
      second.concluded? ≠ some path := ⟨fun _ _ h path hsecond hfirst => h path hfirst hsecond⟩
  have hapart : journal.Pairwise fun first second => ∀ path, first.concluded? = some path →
      second.concluded? ≠ some path :=
    h.imp fun h path hfirst hsecond => h.concluded path hsecond hfirst
  refine hapart.forall hmem' hmem hne path ?_ hconcluded
  rw [Event.concluded?, hpath', Option.some_or]

/-- **Each module is checked once, after its imports**: whatever calls have been completed, and
whatever the files were then, as long as none is a link, no module has been parsed twice or checked
twice, and none has been both refused and checked. When the next call hands a module to the
frontend, its unit has been parsed from its file as it is now; each import of the unit is admissible
and leads to a module that the frontend has accepted before, which gave the artifacts that it gets,
in the order of the imports; and its exports have been inferred. -/
theorem checking_of_reached (compiler : Compiler α) (fs : Filesystem)
    (hreached : compiler.Reached before) (hcalled : compiler.Called fs before after) :
    (after.record.filterMap Event.parsed?).Nodup ∧ (after.record.filterMap Event.checked?).Nodup ∧
    (∀ path ∈ after.record.filterMap Event.checked?,
      path ∉ after.record.filterMap Event.refused?) ∧
    ∃ events, after.record = before.record ++ events ∧
      ∀ first path imports artifacts result rest,
        events = first ++ .checked path imports artifacts result :: rest →
          ∃ file unit chain links exports,
            compiler.Checking fs (before.record ++ first) path file unit chain links exports ∧
            imports = links.map Link.target ∧ artifacts = links.map (·.module.checked) ∧
            result =
              compiler.frontend.check unit ((Imports.empty chain).addLinks links) exports := by
  obtain ⟨-, hapart⟩ := (hcalled.reached hreached).documented
  refine ⟨nodup_of_apart hapart ?_, nodup_of_apart hapart ?_, ?_, ?_⟩
  · intro first second h path hsecond hfirst
    exact h.parsed path hsecond (Event.subject?_of_parsed? hfirst)
  · intro first second h path hsecond hfirst
    exact h.concluded path (Event.concluded?_of_checked? hsecond).1
      (Event.concluded?_of_checked? hfirst).1
  · intro path hchecked hrefused
    exact notMem_refused_of_checked hapart hchecked hrefused
  · obtain ⟨events, hevents, hdue⟩ := (hcalled.proceeds hreached.documented.1).due.exists_events
    exact ⟨events, hevents, fun first path imports artifacts result rest heq =>
      (hdue first _ rest heq).2 path imports artifacts result rfl⟩

/-- The diamond of imports after the module that none imports has been changed: it imports a
module of the diamond directly as well. -/
def changedFiles : Filesystem :=
  diamondFiles.write ⟨"e.brk"⟩ (.text (importingTexts ["b", "a"]))

/-- Whether an event checks the last module with its two imports. -/
def checksLast : Event Unit → Bool
  | .checked path imports _ _ => path.file = "e" ∧ imports.map (·.file) = ["b", "a"]
  | _ => false

/-- When the changed module is compiled after the others, it is the only one that is checked
then, with the artifacts that are known. -/
theorem checking_of_reached_diamond : ∃ before after, (ofSyntaxTrees {}).Reached before ∧
    (ofSyntaxTrees {}).Called changedFiles before after ∧
    (after.record.filterMap Event.checked?).map (·.file) = ["d", "b", "c", "a", "e"] ∧
    (after.record.filterMap Event.parsed?).Nodup ∧
    ∃ journal path file unit chain links exports,
      (ofSyntaxTrees {}).Checking changedFiles journal path file unit chain links exports ∧
      path.file = "e" ∧ links.map (·.target.file) = ["b", "a"] := by
  have hruns : ((ofSyntaxTrees {}).compileFile diamondFiles ⟨"a.brk"⟩ .fresh).any (fun first =>
      ((ofSyntaxTrees {}).compileFile changedFiles ⟨"e.brk"⟩ first.2).any (fun second =>
        (second.2.record.filterMap Event.checked?).map (·.file) = ["d", "b", "c", "a", "e"] ∧
          first.2.record.length < second.2.record.length ∧
            second.2.record.getLast?.any checksLast)) = true := by decide +kernel
  obtain ⟨⟨_, before⟩, hfirst, hsecond⟩ := (Option.any_eq_true _ _).mp hruns
  obtain ⟨⟨_, after⟩, hafter, hrecord⟩ := (Option.any_eq_true _ _).mp hsecond
  obtain ⟨hchecked, hlength, hlast⟩ := of_decide_eq_true hrecord
  have hreached : (ofSyntaxTrees {}).Reached before := .compileFile _ .fresh hfirst
  have hcalled : (ofSyntaxTrees {}).Called changedFiles before after := .compileFile hafter
  obtain ⟨hparsed, -, -, events, hevents, hduly⟩ :=
    checking_of_reached (ofSyntaxTrees {}) changedFiles hreached hcalled
  -- the last event has come in the second call, and it is the check of the module
  obtain ⟨final, hfinal, hchecks⟩ := (Option.any_eq_true _ _).mp hlast
  have hne : events ≠ [] := by
    rintro rfl
    simp [hevents] at hlength
  rw [hevents, List.getLast?_append_of_ne_nil _ hne] at hfinal
  obtain ⟨first, rfl⟩ := List.getLast?_eq_some_iff.mp hfinal
  cases final with
  | required | parsed | refused => cases hchecks
  | checked path imports artifacts result =>
      obtain ⟨hpath, himports⟩ := of_decide_eq_true hchecks
      obtain ⟨file, unit, chain, links, exports, hchecking, rfl, -, -⟩ :=
        hduly first path imports artifacts result [] rfl
      rw [List.map_map] at himports
      exact ⟨before, after, hreached, hcalled, hchecked, hparsed, _, path, file, unit, chain, links,
        exports, hchecking, hpath, himports⟩

end Compiler

end BriskModules
