import BriskModules.Proofs.Graph.Acyclic
import BriskModules.Proofs.Graph.Origin
import BriskModules.Proofs.Module.Places

/-!
Where the modules of a graph come from.

A module comes into a graph by the name of a file that is to be compiled, or by the text of an
import. Names of files are checked when module paths are derived from them, and import texts when
they are read; resolving an import adds nothing else. So all module paths are well-formed,
whatever the files hold, and a package other than the own one is named by some import. The file
of a module that comes by an import is found in a search directory.

* `Compiler.Sourced`: a module path that is well-formed and whose package is accounted for;
* `Sourced.resolveImport`: it stays so over an import of a file that has been parsed;
* `Compiler.WellSourced`: a session in which all module paths are sourced;
* `wellSourced_of_fills`, `Compilation.wellSourced`, `Performance.wellSourced`: what keeps it so;
* `Compiler.LiesBelow`, `Compiler.StartedByCall`: where a module is searched, and which modules
  are not searched because a call tells their file;
* `placed_performAll`: where the files of compiled modules are;
* `sourced_of_performAll` (**all module paths of a graph are well-formed**).
-/

namespace BriskModules

variable {α : Type}

namespace Compiler

variable (compiler : Compiler α) (systems : List Filesystem)

/-- A package is named by an import in a file that has been parsed as a module. -/
def Names (journal : Journal α) (name : String) : Prop :=
  ∃ fs ∈ systems, ∃ path file unit, Event.parsed path file ∈ journal ∧
    compiler.Parses fs path file unit ∧ ∃ decl ∈ unit.imports, ∃ dirs last,
      ImportPath.parse decl.path = .ok ⟨.package name, dirs, last⟩

/-- A module path is well-formed, and its package is the own one or one that an import
names. -/
structure Sourced (journal : Journal α) (path : ModulePath) : Prop where
  wellFormed : path.WellFormed
  package : path.package = compiler.options.package ∨
    ∃ name, path.package = some name ∧ compiler.Names systems journal name

/-- A session in which the modules of the cache and those of all chains are sourced. -/
structure WellSourced (session : Session α (Journal α)) : Prop where
  cells : ∀ path : ModulePath, session.cache.cells[path]? ≠ none →
    compiler.Sourced systems session.record path
  chains : ∀ path chain running, Event.required path chain running ∈ session.record →
    ∀ member ∈ chain.modules, compiler.Sourced systems session.record member

variable {compiler systems} {fs : Filesystem} {requires : Requiring α}
  {path current target : ModulePath} {chain : ImportChain} {file : FileName}
  {journal journal' : Journal α} {result : CompileResult α}
  {before after session : Session α (Journal α)}

/-! ### Sourced module paths -/

lemma Sourced.mono (h : compiler.Sourced systems journal path) (hlater : journal <+: journal') :
    compiler.Sourced systems journal' path := by
  refine ⟨h.wellFormed, h.package.imp_right ?_⟩
  rintro ⟨name, hname, fs, hfs, path, file, unit, hparsed, hnamed⟩
  exact ⟨name, hname, fs, hfs, path, file, unit, hlater.subset hparsed, hnamed⟩

/-- The module path of a file is sourced. -/
lemma sourced_of_modulePathOf (h : compiler.modulePathOf fs file = .ok path) :
    compiler.Sourced systems journal path := by
  rw [modulePathOf] at h
  cases hderived : deriveModulePath fs file compiler.options.sourceRoot
      compiler.options.package with
  | error error => simp [hderived] at h
  | ok derived =>
      simp only [hderived, Except.ok.injEq] at h
      obtain ⟨hwellFormed, hpackage⟩ := ModulePath.wellFormed_of_deriveModulePath (h ▸ hderived)
      exact ⟨hwellFormed, .inl hpackage⟩

/-- An import leads from a sourced module path to a sourced one. -/
lemma Sourced.resolveImport (h : compiler.Sourced systems journal current) (hfs : fs ∈ systems)
    {unit : CompilationUnit} {decl : Import} (hparsed : .parsed current file ∈ journal)
    (hparses : compiler.Parses fs current file unit) (hdecl : decl ∈ unit.imports)
    (htarget : resolveImport current decl.path = .ok target) :
    compiler.Sourced systems journal target := by
  simp only [BriskModules.resolveImport] at htarget
  cases hparse : ImportPath.parse decl.path with
  | error error => simp [hparse] at htarget
  | ok read =>
      cases hresolve : read.resolve current with
      | error error => simp [hparse, hresolve] at htarget
      | ok found =>
          simp only [hparse, hresolve, Except.ok.injEq] at htarget
          subst htarget
          refine ⟨ImportPath.wellFormed_of_resolve (ImportPath.wellFormed_of_parse hparse)
            h.wellFormed hresolve, ?_⟩
          rcases ImportPath.eq_of_resolve hresolve with ⟨name, hstart, rfl⟩ | ⟨kept, rfl⟩
          · refine .inr ⟨name, rfl, fs, hfs, current, file, unit, hparsed, hparses, decl, hdecl,
              read.dirs, read.file, ?_⟩
            rw [hparse, ← hstart]
          · exact h.package

/-! ### WellSourced sessions -/

lemma wellSourced_fresh : compiler.WellSourced systems .fresh :=
  ⟨by simp [Session.fresh], by simp [Session.fresh]⟩

/-- An event comes to a well-sourced session if what is required by it is sourced. -/
lemma WellSourced.noted (h : compiler.WellSourced systems session) {event : Event α}
    (hevent : ∀ path chain running, event = .required path chain running →
      ∀ member ∈ chain.modules, compiler.Sourced systems session.record member) :
    compiler.WellSourced systems (session.noted event) := by
  have hlater : session.record <+: (session.noted event).record := List.prefix_append _ _
  refine ⟨fun path hpath => (h.cells path hpath).mono hlater, ?_⟩
  intro path chain running hrequired member hmember
  rcases List.mem_append.mp hrequired with hrequired | hrequired
  · exact (h.chains path chain running hrequired member hmember).mono hlater
  · exact (hevent path chain running (List.mem_singleton.mp hrequired).symm member
      hmember).mono hlater

lemma WellSourced.started (h : compiler.WellSourced systems session)
    (hpath : compiler.Sourced systems session.record path) :
    compiler.WellSourced systems (session.started path) := by
  refine ⟨fun other hother => ?_, h.chains⟩
  simp only [Session.started, Cache.getElem?_start] at hother
  split_ifs at hother with heq
  · exact heq ▸ hpath
  · exact h.cells other hother

lemma WellSourced.finished (h : compiler.WellSourced systems session)
    (hpath : compiler.Sourced systems session.record path) :
    compiler.WellSourced systems (session.finished path result) := by
  refine ⟨fun other hother => ?_, h.chains⟩
  simp only [Session.finished, Cache.getElem?_finish] at hother
  split_ifs at hother with heq
  · exact heq ▸ hpath
  · exact h.cells other hother

/-- A module that is sourced comes into the cache of a well-sourced session. -/
lemma wellSourced_of_fills
    {makes : Session α (Journal α) → CompileResult α → Session α (Journal α) → Prop}
    (hmakes : ∀ {after}, makes (before.started path) result after →
      compiler.WellSourced systems (before.started path) →
        (before.started path).Grows after ∧ compiler.WellSourced systems after)
    (hpath : compiler.Sourced systems before.record path)
    (h : Fills makes path before result after) (hbefore : compiler.WellSourced systems before) :
    compiler.WellSourced systems after := by
  cases h with
  | known cell => exact hbefore
  | made cell making =>
      obtain ⟨hgrows, hmiddle⟩ := hmakes making (hbefore.started hpath)
      exact hmiddle.finished (hpath.mono hgrows.recorded)

variable (compiler) in
/-- A module is in a chain of which all modules are sourced. -/
structure Accounted (systems : List Filesystem) (session : Session α (Journal α))
    (path : ModulePath) (chain : ImportChain) : Prop where
  chained : path ∈ chain.modules
  sourced : ∀ member ∈ chain.modules, compiler.Sourced systems session.record member

/-- Compiling a sourced module leaves a session well-sourced if requiring what is sourced does:
when imports are required, the file in which they stand has been parsed. -/
lemma Compilation.wellSourced (hfs : fs ∈ systems) (hreliable : requires.Reliable)
    (hrequires : ∀ {path chain before result after}, requires path chain before result after →
      compiler.Accounted systems before path chain →
        compiler.WellSourced systems before → compiler.WellSourced systems after)
    (h : compiler.Compilation fs requires path chain file before result after)
    (haccounted : compiler.Accounted systems before path chain)
    (hbefore : compiler.WellSourced systems before) : compiler.WellSourced systems after := by
  have hkept : after = before ∨ compiler.WellSourced systems after ∧
      before.record ++ [.parsed path file] <+: after.record := by
    refine h.preserves_parsed (fun session => compiler.WellSourced systems session ∧
      before.record ++ [.parsed path file] <+: session.record) ?_ ?_
      ⟨hbefore.noted (by simp), List.prefix_refl _⟩
    · rintro session event hinner ⟨hsession, hlater⟩
      refine ⟨hsession.noted ?_, hlater.trans (List.prefix_append _ _)⟩
      rintro path chain running rfl
      exact hinner.elim
    · rintro unit parses decl hdecl target result first last hresolve - hrequired
        ⟨hfirst, hlater⟩
      have hparsed : .parsed path file ∈ first.record := hlater.subset (by simp)
      have hgrows : before.record <+: first.record := (List.prefix_append _ _).trans hlater
      refine ⟨hrequires hrequired ⟨by simp, fun member hmember => ?_⟩ hfirst,
        hlater.trans (hreliable.grows hrequired).recorded⟩
      rw [ImportChain.modules_extend, List.mem_append, List.mem_singleton] at hmember
      rcases hmember with hmember | rfl
      · exact (haccounted.sourced member hmember).mono hgrows
      · have hpath := (haccounted.sourced path haccounted.chained).mono hgrows
        exact hpath.resolveImport hfs hparsed parses hdecl hresolve
  rcases hkept with rfl | ⟨hafter, -⟩
  · exact hbefore
  · exact hafter

/-- Requiring a module of a sourced chain leaves a session well-sourced. -/
lemma wellSourced_requireWithin (hfs : fs ∈ systems) {depth : ℕ}
    (h : compiler.requiring fs depth path chain before result after)
    (haccounted : compiler.Accounted systems before path chain)
    (hbefore : compiler.WellSourced systems before) : compiler.WellSourced systems after := by
  refine requireWithin_induction (fun path chain before _ after =>
    compiler.Accounted systems before path chain → compiler.WellSourced systems before →
      compiler.WellSourced systems after) ?_ depth h haccounted hbefore
  intro requires hreliable hrequires path chain before result after hfills haccounted hbefore
  have hlater : before.record <+:
      (before.noted (.required path chain before.cache.running)).record := List.prefix_append _ _
  have hchain : ∀ member ∈ chain.modules, compiler.Sourced systems
      (before.noted (.required path chain before.cache.running)).record member :=
    fun member hmember => (haccounted.sourced member hmember).mono hlater
  refine wellSourced_of_fills (fun making hstarted => ?_) (hchain path haccounted.chained) hfills
    (hbefore.noted fun _ _ _ heq => ?_)
  · refine ⟨making.grows hreliable, ?_⟩
    cases making with
    | missing => exact hstarted
    | found _ compiles =>
        exact compiles.wellSourced hfs hreliable hrequires ⟨haccounted.chained, hchain⟩ hstarted
  · cases heq
    exact haccounted.sourced

/-- Compiling a file leaves a session well-sourced. -/
lemma Performance.wellSourced (hfs : fs ∈ systems)
    (h : compiler.Performance fs (.file file) before after)
    (hbefore : compiler.WellSourced systems before) : compiler.WellSourced systems after := by
  cases h with
  | underived => exact hbefore
  | @file depth _ path _ _ _ derived fills =>
      have hreliable := reliable_requireWithin compiler fs depth
      have hpath : compiler.Sourced systems before.record path := sourced_of_modulePathOf derived
      refine wellSourced_of_fills (fun compiles hstarted => ⟨compiles.grows hreliable, ?_⟩) hpath
        fills hbefore
      exact compiles.wellSourced hfs hreliable (wellSourced_requireWithin hfs)
        ⟨by simp, by simpa [Session.started] using hpath⟩ hstarted

/-! ### Where the files of modules are -/

variable (compiler) in
/-- The file of a module lies below a directory that is searched for it: as an implementation
if the module is in the own package, and as an interface if it is in another one. -/
def LiesBelow (path : ModulePath) (file : FileName) : Prop :=
  ∃ dir ∈ compiler.directoriesOf (compiler.isOwn path),
    file = dir.join (if compiler.isOwn path then path.implementationFile else path.interfaceFile)

lemma liesBelow_of_locate (h : compiler.locate fs path = .ok file) :
    compiler.LiesBelow path file := by
  obtain ⟨dir, hdir, hfile, -⟩ := compiler.exists_of_search fs (search_of_locate h)
  refine ⟨dir, hdir, hfile.trans ?_⟩
  simp only [searched, extensionOf]
  split_ifs <;> rfl

/-- Calls to compile files one after the other, each with the files as they are then. -/
def fileRequests (calls : List (Filesystem × FileName)) : List (Filesystem × Request) :=
  calls.map fun call => (call.1, .file call.2)

variable (compiler) in
/-- The compilation of a module is started by a call to compile a file: it is the module in that
file, and the calls before have not required it. -/
def StartedByCall (calls : List (Filesystem × FileName)) (path : ModulePath) (file : FileName) :
    Prop :=
  ∃ first fs rest session, calls = first ++ (fs, file) :: rest ∧
    (compiler.performAll (fileRequests first)).Leads .fresh () session ∧
      session.cache.cells[path]? = none ∧ compiler.modulePathOf fs file = .ok path

variable (compiler) in
/-- The file of a module is the one with which a call has started its compilation, or lies where
it is searched. -/
def Placed (calls : List (Filesystem × FileName)) (path : ModulePath) (file : FileName) : Prop :=
  compiler.StartedByCall calls path file ∨ compiler.LiesBelow path file

/-- The files of compiled modules are placed. -/
lemma placed_performAll {calls : List (Filesystem × FileName)}
    (h : (compiler.performAll (fileRequests calls)).Leads .fresh () after) :
    after.Holds fun _ path result => ∀ info, result = .ok info →
      compiler.Placed calls path info.file := by
  intro path result hresult info hinfo
  obtain ⟨fs, -, horigin⟩ := origin_performAll h path result hresult info hinfo
  refine horigin.decided.imp (fun hstarted => ?_) liesBelow_of_locate
  obtain ⟨first, rest, session, hrequests, hfirst, hnew, hderived⟩ := hstarted
  -- what comes before the request are calls to compile files as well
  obtain ⟨before, more, hcalls, rfl, hmore⟩ := List.map_eq_append_iff.mp hrequests
  obtain ⟨⟨fs', file⟩, rest, rfl, hserved, -⟩ := List.map_eq_cons_iff.mp hmore
  obtain ⟨rfl, hfile⟩ := Prod.mk.inj hserved
  obtain rfl := Request.file.inj hfile
  exact ⟨before, fs', rest, session, hcalls, hfirst, hnew, hderived⟩

/-- **All module paths of a graph are well-formed**: after any calls to compile files, none of which
is a link, every module of the cache, every module of a chain with which a module was required, and
the path and the imports of every compiled module are made of identifiers, and are in the own
package or in one that is named by an import of a file that was parsed. The file of a compiled
module that no call has started lies in a directory where it is searched. -/
theorem sourced_of_performAll (compiler : Compiler α) (calls : List (Filesystem × FileName)) :
    ∃ after, (compiler.performAll (fileRequests calls)).Leads .fresh () after ∧
      (∀ path, after.cache.cells[path]? ≠ none →
        compiler.Sourced (calls.map Prod.fst) after.record path) ∧
      (∀ path chain running, Event.required path chain running ∈ after.record →
        ∀ member ∈ chain.modules, compiler.Sourced (calls.map Prod.fst) after.record member) ∧
      ∀ path info, after.cache.get? path = some (.ok info) →
        compiler.Sourced (calls.map Prod.fst) after.record info.path ∧
          (∀ target ∈ info.imports,
            compiler.Sourced (calls.map Prod.fst) after.record target) ∧
          (compiler.StartedByCall calls path info.file ∨ compiler.LiesBelow path info.file) := by
  obtain ⟨_, after, hafter⟩ :=
    completes_performAll compiler (fileRequests calls) Session.idle_fresh
  obtain ⟨-, hwellSourced, hsound⟩ := performAll_induction
    (fun session => compiler.WellSourced (calls.map Prod.fst) session ∧ session.cache.Sound)
    (fun served hserved before after _ hbefore hperformance => by
      obtain ⟨call, hcall, rfl⟩ := List.mem_map.mp hserved
      exact ⟨hperformance.wellSourced (List.mem_map_of_mem hcall) hbefore.1,
        hperformance.sound hbefore.2⟩)
    Session.idle_fresh ⟨wellSourced_fresh, Cache.sound_empty⟩ hafter
  refine ⟨after, hafter, hwellSourced.cells, hwellSourced.chains, fun path info hinfo => ?_⟩
  have hcell : ∀ {other result}, after.cache.get? other = some result →
      after.cache.cells[other]? ≠ none := by
    intro other result hresult
    simp [(Cache.get?_eq_some_iff _ _).mp hresult]
  have hlinked := hsound.linked path info hinfo
  refine ⟨hlinked.own ▸ hwellSourced.cells path (hcell hinfo), fun target htarget => ?_, ?_⟩
  · obtain ⟨other, hother, -⟩ := hlinked.imported target htarget
    exact hwellSourced.cells target (hcell hother)
  · exact placed_performAll hafter path _ ((Cache.get?_eq_some_iff _ _).mp hinfo) info rfl

/-- A file that imports a module of a package, and the interface of that module. -/
def abroadFiles : Filesystem :=
  ((Filesystem.empty ["lib"]).write ⟨"a.brk"⟩ (.text (importingTexts ["@lib/b"]))).write
    ⟨"b.brh"⟩ (.text "\x7b\"spec\": \x7b\x7d\x7d")

/-- A compiler that looks for interfaces in the directory above. -/
def lookingUp : Compiler Unit := ofSyntaxTrees { interfacePath := ⟨[⟨".."⟩]⟩ }

/-- The module of the package is compiled for the import from where it is searched. -/
theorem sourced_of_performAll_abroad : ∃ after info,
    (lookingUp.performAll (fileRequests [(abroadFiles, ⟨"a.brk"⟩)])).Leads .fresh () after ∧
      after.cache.get? ⟨some "lib", [], "b"⟩ = some (.ok info) ∧
        lookingUp.LiesBelow ⟨some "lib", [], "b"⟩ info.file := by
  obtain ⟨after, hafter, -, -, hinfos⟩ :=
    sourced_of_performAll lookingUp [(abroadFiles, ⟨"a.brk"⟩)]
  have hrun : (lookingUp.performAll (fileRequests [(abroadFiles, ⟨"a.brk"⟩)]) .fresh).any
      (fun run => (run.2.cache.get? ⟨some "lib", [], "b"⟩).any Except.isOk) = true := by
    decide +kernel
  rw [hafter.any_eq, Option.any_eq_true] at hrun
  obtain ⟨result, hresult, hok⟩ := hrun
  cases result with
  | error failure => cases hok
  | ok info =>
      obtain ⟨-, -, hstarted | hlies⟩ := hinfos _ info hresult
      · -- the only call is for another module
        obtain ⟨first, fs, rest, -, hcalls, -, -, hderived⟩ := hstarted
        have hcall : (fs, info.file) ∈ [(abroadFiles, (⟨"a.brk"⟩ : FileName))] := by
          simp [hcalls]
        obtain ⟨rfl, hfile⟩ := Prod.mk.inj (List.mem_singleton.mp hcall)
        have hother : lookingUp.modulePathOf abroadFiles ⟨"a.brk"⟩ = .ok ⟨none, [], "a"⟩ := by
          decide +kernel
        rw [hfile, hother] at hderived
        cases hderived
      · exact ⟨after, info, hafter, hresult, hlies⟩

end Compiler

end BriskModules
