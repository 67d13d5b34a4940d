import BriskModules.Proofs.Graph.Making
import BriskModules.Proofs.Graph.Results

/-!
The file that a module is compiled from.

A module is known by its path, and several files can have one path: an implementation and an
interface, or files of one name below different directories. The first request that leads to the
module decides which of them is compiled, the file of a request to compile it or the file that is
found where the module is searched, and every later request gets what was made of this file. So a
file that is compiled is compiled itself only if its module has not been required before.

* `Compiler.StartedBy`, `Compiler.Origin`: the requests that decide on the file of a module;
* `bears_origin`, `origin_performAll`: the origins of all modules in a cache;
* `origin_of_compileFile` (**which file is compiled when a file is compiled**).
-/

namespace BriskModules

variable {α : Type}

namespace Compiler

variable (compiler : Compiler α) (fs : Filesystem)

/-- A request to compile a file is the first one that leads to the module in this file. -/
def StartedBy (requests : List (Filesystem × Request)) (fs : Filesystem) (path : ModulePath)
    (file : FileName) : Prop :=
  ∃ first rest session, requests = first ++ (fs, .file file) :: rest ∧
    (compiler.performAll first).Leads .fresh () session ∧
      session.cache.cells[path]? = none ∧ compiler.modulePathOf fs file = .ok path

/-- A module has been compiled from the file of the first request that leads to it, or from the
file that is found for it, and from modules in a cache. -/
structure Origin (requests : List (Filesystem × Request)) (fs : Filesystem) (cache : Cache α)
    (path : ModulePath) (info : ModuleInfo α) : Prop where
  compiled : compiler.CompiledFrom fs cache path info
  decided : compiler.StartedBy requests fs path info.file ∨
    compiler.locate fs path = .ok info.file

variable {compiler fs} {requests : List (Filesystem × Request)} {path : ModulePath}
  {chain : ImportChain} {file : FileName} {info : ModuleInfo α} {result : CompileResult α}
  {cache cache' : Cache α} {before after : Session α (Journal α)}

lemma StartedBy.append (h : compiler.StartedBy requests fs path file)
    (more : List (Filesystem × Request)) : compiler.StartedBy (requests ++ more) fs path file := by
  obtain ⟨first, rest, session, rfl, hfirst⟩ := h
  exact ⟨first, rest ++ more, session, by simp, hfirst⟩

lemma Origin.append (h : compiler.Origin requests fs cache path info)
    (more : List (Filesystem × Request)) : compiler.Origin (requests ++ more) fs cache path info :=
  ⟨h.compiled, h.decided.imp_left (·.append more)⟩

lemma Origin.mono (hstays : cache.StaysIn cache')
    (h : compiler.Origin requests fs cache path info) :
    compiler.Origin requests fs cache' path info :=
  ⟨h.compiled.mono hstays, h.decided⟩

/-- Each compilation passes on where files come from. -/
lemma bears_origin (compiler : Compiler α) (hfs : fs ∈ requests.map Prod.fst) :
    compiler.Bears fs
      (fun path _ file => compiler.StartedBy requests fs path file ∨
        compiler.locate fs path = .ok file)
      (fun cache path result => ∀ info, result = .ok info →
        ∃ fs ∈ requests.map Prod.fst, compiler.Origin requests fs cache path info) where
  lasting := by
    intro cache cache' hstays path result hresult info hinfo
    obtain ⟨fs, hfs, horigin⟩ := hresult info hinfo
    exact ⟨fs, hfs, horigin.mono hstays⟩
  missing := by simp
  next _ _ _ _ hlocated := .inr hlocated
  compiled hreliable hdecided h _ info hinfo := by
    subst hinfo
    obtain ⟨rfl, hcompiled⟩ := h.compiledFrom hreliable
    exact ⟨fs, hfs, hcompiled, hdecided⟩

/-- All modules in a cache have an origin. -/
lemma origin_performAll (h : (compiler.performAll requests).Leads .fresh () after) :
    after.Holds fun cache path result => ∀ info, result = .ok info →
      ∃ fs ∈ requests.map Prod.fst, compiler.Origin requests fs cache path info := by
  induction requests using List.reverseRecOn generalizing after with
  | nil =>
      obtain ⟨-, rfl⟩ := Work.leads_pure.mp h
      exact Session.holds_fresh
  | append_singleton requests served ih =>
      obtain ⟨fs, request⟩ := served
      obtain ⟨before, hbefore, hlast⟩ := leads_performAll_append.mp h
      obtain ⟨_, _, hperform, hdone⟩ := Work.leads_bind.mp hlast
      obtain ⟨-, rfl⟩ := Work.leads_pure.mp hdone
      have hheld : before.Holds fun cache path result => ∀ info, result = .ok info →
          ∃ fs' ∈ (requests ++ [(fs, request)]).map Prod.fst,
            compiler.Origin (requests ++ [(fs, request)]) fs' cache path info := by
        intro path result hresult info hinfo
        obtain ⟨fs', hfs', horigin⟩ := ih hbefore path result hresult info hinfo
        rw [List.map_append]
        exact ⟨fs', List.mem_append_left _ hfs', horigin.append _⟩
      have hserved : fs ∈ (requests ++ [(fs, request)]).map Prod.fst := by simp
      have hbears := bears_origin compiler hserved
      cases performance_of_leads hperform with
      | underived => exact hheld
      | module _ required =>
          exact holds_requireWithin hbears (fun _ hlocated => .inr hlocated) required hheld
      | file depth derived fills =>
          cases fills with
          | known => exact hheld
          | made cell making =>
              exact holds_compileWithin hbears
                (.inl ⟨requests, [], before, rfl, hbefore, cell, derived⟩) (.made cell making) hheld

/-- What becomes of a file is a module with the module path of the file, which is made of this
file or has been in the cache before. -/
lemma made_or_known_of_compileFile
    (h : (compiler.compileFile fs file).Leads before (.ok info) after) :
    compiler.modulePathOf fs file = .ok info.path ∧ info.file = file ∧
        compiler.CompiledFrom fs after.cache info.path info ∧
        before.cache.cells[info.path]? = none ∨
      ∃ path, compiler.modulePathOf fs file = .ok path ∧
        before.cache.cells[path]? = some (.done (.ok info)) := by
  have hreliable := reliable_requireWithin compiler fs
  rcases compileFileWithin_of_leads h with
    ⟨_, -, hfailed, -⟩ | ⟨path, result, hderived, hfills, hresult⟩
  · cases hfailed
  · cases result with
    | error failure => cases hresult
    | ok made =>
        obtain rfl := Except.ok.inj hresult
        cases hfills with
        | known cell => exact .inr ⟨path, hderived, cell⟩
        | made cell making =>
            obtain ⟨hfile, hcompiled⟩ := making.compiledFrom (hreliable _)
            obtain rfl := hcompiled.own
            have hnone := (making.grows (hreliable _)).get?_eq_none
            exact .inl ⟨hderived, hfile, hcompiled.mono (Cache.staysIn_finish hnone _), cell⟩

/-- If the first request that leads to a module is to compile a file, the module has a result, which
is made of this file. -/
lemma StartedBy.exists_result (hstarted : compiler.StartedBy requests fs path file)
    (h : (compiler.performAll requests).Leads .fresh () after) :
    ∃ result, after.cache.cells[path]? = some (.done result) ∧
      ∀ info, result = .ok info → info.file = file := by
  obtain ⟨first, rest, session, rfl, hfirst, hnew, hderived⟩ := hstarted
  -- the requests before have led to one session only, in which the module is new
  obtain ⟨middle, hmiddle, hrest⟩ := leads_performAll_append.mp h
  obtain ⟨-, rfl⟩ := hfirst.unique hmiddle
  obtain ⟨_, next, hperform, hmore⟩ := Work.leads_bind.mp hrest
  have hperformance := performance_of_leads hperform
  have hidle := (grows_performAll Session.idle_fresh hfirst).idle Session.idle_fresh
  have hgrows := grows_performAll (hperformance.grows.idle hidle) hmore
  cases hperformance with
  | underived underived =>
      rw [underived] at hderived
      cases hderived
  | file depth derived fills =>
      obtain rfl := Except.ok.inj (derived.symm.trans hderived)
      refine ⟨_, hgrows.keeps _ _ (grows_compileWithin fills).2, fun info hinfo => ?_⟩
      subst hinfo
      cases fills with
      | known cell =>
          rw [cell] at hnew
          cases hnew
      | made _ making =>
          exact (making.compiledFrom (reliable_requireWithin compiler fs depth)).1

/-- **Which file is compiled when a file is compiled**: after any requests with the same files,
none of which is a link, a file that compiles becomes a module with the module path of the file, and
is made of the unit in its file and of the modules in the cache to which the imports of this unit
lead. It is made of the file itself if the module has not been required before; of the file of the
first request that has led to the module, if that was a request to compile it; and else of the file
that is found for the module. So if these are all the same file, it is made of the file that is
given. -/
theorem origin_of_compileFile (compiler : Compiler α) (fs : Filesystem) (requests : List Request)
    (file : FileName) : ∃ session outcome after,
      (compiler.performAll (requests.map (fs, ·))).Leads .fresh () session ∧
      (compiler.compileFile fs file).Leads session outcome after ∧
      ∀ info, outcome = .ok info →
        compiler.modulePathOf fs file = .ok info.path ∧
        compiler.CompiledFrom fs after.cache info.path info ∧
        (session.cache.cells[info.path]? = none → info.file = file) ∧
        (∀ other, compiler.StartedBy (requests.map (fs, ·)) fs info.path other →
          info.file = other) ∧
        (session.cache.cells[info.path]? ≠ none →
          (∀ other, ¬compiler.StartedBy (requests.map (fs, ·)) fs info.path other) →
            compiler.locate fs info.path = .ok info.file) ∧
        ((∀ other, .file other ∈ requests → compiler.modulePathOf fs other = .ok info.path →
            fs.follow other = fs.follow file) →
          (∀ other, compiler.locate fs info.path = .ok other → fs.follow other = fs.follow file) →
            fs.follow info.file = fs.follow file) := by
  obtain ⟨_, session, hsession⟩ :=
    completes_performAll compiler (requests.map (fs, ·)) Session.idle_fresh
  have hidle := (grows_performAll Session.idle_fresh hsession).idle Session.idle_fresh
  obtain ⟨outcome, after, hafter⟩ := completes_compileFile file hidle
  refine ⟨session, outcome, after, hsession, hafter, fun info hinfo => ?_⟩
  subst hinfo
  rcases made_or_known_of_compileFile hafter with
    ⟨hderived, rfl, hcompiled, hnew⟩ | ⟨path, hderived, hcell⟩
  · refine ⟨hderived, hcompiled, fun _ => rfl, fun other hstarted => ?_,
      fun hknown => absurd hnew hknown, fun _ _ => rfl⟩
    obtain ⟨result, hcell, -⟩ := hstarted.exists_result hsession
    rw [hcell] at hnew
    cases hnew
  · -- the module has been in the cache, and the file plays no part
    obtain ⟨fs', hfs', hcompiled, hdecided⟩ := origin_performAll hsession path _ hcell info rfl
    obtain ⟨-, rfl⟩ : requests ≠ [] ∧ fs = fs' := by simpa [eq_comm] using hfs'
    obtain rfl := hcompiled.own
    have hstays := (grows_compileFileWithin hafter).staysIn
    refine ⟨hderived, hcompiled.mono hstays, fun hnew => ?_, fun other hstarted => ?_,
      fun _ hother => ?_, fun hfiles hlocated => ?_⟩
    · rw [hcell] at hnew
      cases hnew
    · obtain ⟨result, hresult, hfile⟩ := hstarted.exists_result hsession
      exact hfile info (Cell.done.inj (Option.some.inj (hresult.symm.trans hcell)))
    · exact hdecided.resolve_left (hother info.file)
    · rcases hdecided with ⟨first, rest, _, hrequests, -, -, hfile⟩ | hfound
      · refine hfiles info.file ?_ hfile
        have hserved : (fs, Request.file info.file) ∈ requests.map (fs, ·) := by
          simp [hrequests]
        simpa using hserved
      · exact hlocated info.file hfound

/-- An implementation and an interface of one module. -/
def twinFiles : Filesystem :=
  ((Filesystem.empty []).write ⟨"a.brk"⟩ (.text "\x7b\"spec\": \x7b\x7d\x7d")).write ⟨"a.brh"⟩
    (.text "\x7b\"spec\": \x7b\x7d\x7d")

/-- An implementation that is compiled again under another name is made of the same file. -/
theorem origin_of_compileFile_again : ∃ session info after,
    ((ofSyntaxTrees {}).performAll ([Request.file ⟨"a.brk"⟩, .module ⟨none, [], "a"⟩ []].map
      (twinFiles, ·))).Leads .fresh () session ∧
    ((ofSyntaxTrees {}).compileFile twinFiles ⟨"./a.brk"⟩).Leads session (.ok info) after ∧
      info.path = ⟨none, [], "a"⟩ ∧
        twinFiles.follow info.file = twinFiles.follow ⟨"./a.brk"⟩ := by
  obtain ⟨session, outcome, after, hsession, hafter, horigin⟩ := origin_of_compileFile
    (ofSyntaxTrees {}) twinFiles [.file ⟨"a.brk"⟩, .module ⟨none, [], "a"⟩ []] ⟨"./a.brk"⟩
  have hrun : ((ofSyntaxTrees {}).performAll
      ([Request.file ⟨"a.brk"⟩, .module ⟨none, [], "a"⟩ []].map (twinFiles, ·)) .fresh).any
      (fun run => ((ofSyntaxTrees {}).compileFile twinFiles ⟨"./a.brk"⟩ run.2).any
        fun run => run.1.isOk) = true := by
    decide +kernel
  rw [hsession.any_eq, hafter.any_eq] at hrun
  cases outcome with
  | error diagnostics => cases hrun
  | ok info =>
      obtain ⟨hderived, -, -, -, -, hsame⟩ := horigin info rfl
      have hpath : (ofSyntaxTrees {}).modulePathOf twinFiles ⟨"./a.brk"⟩ = .ok ⟨none, [], "a"⟩ := by
        decide +kernel
      have hlocate : (ofSyntaxTrees {}).locate twinFiles ⟨none, [], "a"⟩ = .ok ⟨"./a.brk"⟩ := by
        decide +kernel
      have hown := Except.ok.inj (hderived.symm.trans hpath)
      refine ⟨session, info, after, hsession, hafter, hown, hsame ?_ ?_⟩
      · intro other hother _
        obtain rfl : other = ⟨"a.brk"⟩ := by simpa using hother
        decide +kernel
      · intro other hother
        rw [hown, hlocate] at hother
        rw [Except.ok.inj hother]

/-- An interface that is compiled after the implementation is made of the implementation. -/
theorem compileFile_twin : ∃ session info after,
    ((ofSyntaxTrees {}).performAll ([Request.file ⟨"a.brk"⟩].map (twinFiles, ·))).Leads .fresh ()
      session ∧
    ((ofSyntaxTrees {}).compileFile twinFiles ⟨"a.brh"⟩).Leads session (.ok info) after ∧
      info.file = ⟨"a.brk"⟩ ∧
        twinFiles.follow ⟨"a.brk"⟩ = .ok ["a.brk"] ∧
        twinFiles.follow ⟨"a.brh"⟩ = .ok ["a.brh"] := by
  obtain ⟨_, session, hsession⟩ := completes_performAll (ofSyntaxTrees {})
    ([Request.file ⟨"a.brk"⟩].map (twinFiles, ·)) Session.idle_fresh
  have hidle := (grows_performAll Session.idle_fresh hsession).idle Session.idle_fresh
  obtain ⟨outcome, after, hafter⟩ :
      ((ofSyntaxTrees {}).compileFile twinFiles ⟨"a.brh"⟩).Completes session :=
    completes_compileFile _ hidle
  have hrun : ((ofSyntaxTrees {}).performAll
      ([Request.file ⟨"a.brk"⟩].map (twinFiles, ·)) .fresh).any
      (fun run => ((ofSyntaxTrees {}).compileFile twinFiles ⟨"a.brh"⟩ run.2).any
        fun run => run.1.toOption.map ModuleInfo.file = some ⟨"a.brk"⟩) = true := by
    decide +kernel
  rw [hsession.any_eq, hafter.any_eq, decide_eq_true_eq] at hrun
  cases outcome with
  | error diagnostics => cases hrun
  | ok info =>
      exact ⟨session, info, after, hsession, hafter, Option.some.inj hrun, by decide +kernel,
        by decide +kernel⟩

end Compiler

end BriskModules
