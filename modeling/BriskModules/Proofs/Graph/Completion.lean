import BriskModules.Proofs.Graph.Growth
import BriskModules.Proofs.Graph.Nesting

/-!
Compiling always completes.

A module is stuck if its cell is running or if modules are nested too deep. The first does
not happen because running modules are in the chain, and no import in the chain is required.
The second does not happen because the modules in the chain that have been located are
different and are no more than the ways to find them, which the bound on the nesting exceeds.

* `Session.Within`: only modules of a chain are running;
* `completes_compileWith`: a module is compiled if its imports can be required;
* `Confines`: a kind of modules that imports do not lead out of, with a bound on their number;
* `Trail`: the located modules of a chain, none of which has been entered twice;
* `completes_require`, `completes_compileFile`: the compiler completes.
-/

namespace BriskModules

variable {α : Type}

/-- Only modules of the chain are running in a session. -/
def Session.Within (session : Session α (Journal α)) (chain : ImportChain) : Prop :=
  ∀ path : ModulePath, session.cache.cells[path]? = some .running → path ∈ chain.modules

/-- No module is running in a session. -/
def Session.Idle (session : Session α (Journal α)) : Prop :=
  ∀ path : ModulePath, session.cache.cells[path]? ≠ some .running

namespace Session

variable {before after session : Session α (Journal α)} {chain : ImportChain}
  {path : ModulePath}

lemma Grows.within (h : before.Grows after) (hwithin : before.Within chain) :
    after.Within chain :=
  fun path hpath => hwithin path ((h.running path).mp hpath)

lemma Grows.idle (h : before.Grows after) (hidle : before.Idle) : after.Idle :=
  fun path hpath => hidle path ((h.running path).mp hpath)

lemma idle_fresh : (fresh : Session α (Journal α)).Idle := by
  simp [Idle, fresh]

lemma Idle.within (h : session.Idle) (chain : ImportChain) : session.Within chain :=
  fun path hpath => absurd hpath (h path)

/-- A module of the chain may be started. -/
lemma Within.started (h : session.Within chain) (hpath : path ∈ chain.modules) :
    (session.started path).Within chain := by
  intro other hother
  simp only [Session.started, Cache.getElem?_start] at hother
  split_ifs at hother with heq
  · exact heq ▸ hpath
  · exact h other hother

end Session

@[simp]
lemma ImportChain.modules_root (path : ModulePath) : (ImportChain.root path).modules = [path] :=
  rfl

@[simp]
lemma ImportChain.modules_extend (chain : ImportChain) (path : ModulePath) :
    (chain.extend path).modules = chain.modules ++ [path] :=
  rfl

/-! ### Checking imports and compiling a module -/

section Checking

variable {current : ModulePath} {chain : ImportChain}
  {require : ModulePath → ImportChain → Compiling α (CompileResult α)}

/-- Checking imports completes if each target outside of the chain can be required while
only modules of the chain are running. -/
lemma completes_checkEach
    (hreliable : Requiring.Reliable fun path chain => (require path chain).Leads)
    (hrequire : ∀ text target (session : Session α (Journal α)),
      resolveImport current text = .ok target → target ∉ chain.modules →
        session.Within chain → (require target (chain.extend target)).Completes session)
    (decls : List Import) {imports : Imports α} {before : Session α (Journal α)}
    (hchain : imports.chain = chain) (hwithin : before.Within chain) :
    Work.Completes (checkEach current require decls imports) before := by
  induction decls generalizing imports before with
  | nil => exact Work.completes_pure
  | cons decl more ih =>
      rw [checkEach, checkImport]
      cases htarget : importTarget decl current imports with
      | error error =>
          simp only [pure_bind]
          exact (ih hchain hwithin).bind fun _ _ _ => Work.completes_pure
      | ok target =>
          obtain ⟨hresolve, hnew, -⟩ := importTarget_eq_ok_iff.mp htarget
          rw [hchain] at hnew
          simp only [bind_assoc, pure_bind, hchain]
          refine (hrequire _ _ _ hresolve hnew hwithin).bind fun result middle hleads => ?_
          have hmiddle : middle.Within chain :=
            (hreliable.grows hleads).within hwithin
          cases accept decl current target result with
          | error error => exact (ih hchain hmiddle).bind fun _ _ _ => Work.completes_pure
          | ok info => exact ih (by rw [Imports.chain_register, hchain]) hmiddle

variable {compiler : Compiler α} {fs : Filesystem}

/-- Compiling a module completes if the targets of its imports can be required. -/
lemma Compiler.completes_compileWith
    (hreliable : Requiring.Reliable fun path chain => (require path chain).Leads)
    (hrequire : ∀ text target (session : Session α (Journal α)),
      resolveImport current text = .ok target → target ∉ chain.modules →
        session.Within chain → (require target (chain.extend target)).Completes session)
    (file : FileName) {before : Session α (Journal α)} (hwithin : before.Within chain) :
    (compiler.compileWith fs require current chain file).Completes before := by
  unfold compileWith
  cases fs.readText file with
  | error error => exact Work.completes_pure
  | ok text =>
      refine Work.completes_note.bind fun _ parsed hparsed => ?_
      have hparsed : parsed.Within chain := by
        rw [Work.leads_note.mp hparsed]
        exact hwithin
      cases compiler.frontend.parse file text current with
      | error diagnostics => exact Work.completes_pure
      | ok unit =>
          simp only [compileUnit, checkImports, bind_assoc, pure_bind]
          refine (completes_checkEach hreliable hrequire _ rfl hparsed).bind
            fun checked _ _ => ?_
          split_ifs
          · simp only [completeUnit]
            cases inferExports unit current (.ofUnit unit) (.collect unit checked.1)
                checked.1.internal with
            | error errors => exact Work.completes_pure
            | ok exports =>
                refine Work.completes_note.bind fun _ _ _ => ?_
                cases compiler.frontend.check unit checked.1 exports with
                | error diagnostics => exact Work.completes_pure
                | ok _ => exact Work.completes_pure
          · exact Work.completes_note.bind fun _ _ _ => Work.completes_pure

end Checking

/-! ### The nesting of modules -/

namespace Compiler

variable {compiler : Compiler α} {fs : Filesystem} {path current target : ModulePath}
  {chain : ImportChain} {trail : List ModulePath} {kind : ModulePath → Prop} {room depth : ℕ}

variable (compiler fs) in
/-- A kind of modules that imports do not lead out of, and of which no more than `room` are
located. -/
structure Confines (kind : ModulePath → Prop) (room : ℕ) : Prop where
  resolve : ∀ {current target : ModulePath} {text : String}, kind current →
    resolveImport current text = .ok target → kind target
  length_le : ∀ {trail : List ModulePath}, trail.Nodup →
    (∀ path ∈ trail, kind path ∧ ∃ file, compiler.search fs path = .ok file) →
      trail.length ≤ room

variable (compiler fs) in
/-- The modules that import paths lead to from an origin are no more than the ways to find
them. -/
lemma confines_descends (origin : ModulePath) :
    compiler.Confines fs (fun path => Descends origin path ∧ isIdentifier path.file = true)
      ((origin.dirs.length + 2) * compiler.findings fs) :=
  ⟨fun hcurrent hresolve => hcurrent.1.resolveImport hresolve, fun hnodup hfound =>
    length_le_of_found hnodup fun path hpath =>
      ⟨(hfound path hpath).1.1, (hfound path hpath).1.2, (hfound path hpath).2⟩⟩

variable (compiler fs) in
/-- Modules of a chain that are of a kind and have been located, each once. -/
structure Trail (kind : ModulePath → Prop) (chain : ImportChain) (trail : List ModulePath) :
    Prop where
  nodup : trail.Nodup
  chained : ∀ path ∈ trail, path ∈ chain.modules
  found : ∀ path ∈ trail, kind path ∧ ∃ file, compiler.search fs path = .ok file

lemma Trail.nil (kind : ModulePath → Prop) (chain : ImportChain) :
    compiler.Trail fs kind chain [] :=
  ⟨List.nodup_nil, by simp, by simp⟩

lemma Trail.extend (h : compiler.Trail fs kind chain trail) (path : ModulePath) :
    compiler.Trail fs kind (chain.extend path) trail :=
  ⟨h.nodup, fun path hpath => List.mem_append_left _ (h.chained path hpath), h.found⟩

/-- A module that is located is added to the trail. -/
lemma Trail.cons (h : compiler.Trail fs kind chain trail) (hnew : path ∉ trail)
    (hchain : path ∈ chain.modules) (hkind : kind path) {file : FileName}
    (hlocate : compiler.locate fs path = .ok file) :
    compiler.Trail fs kind chain (path :: trail) := by
  refine ⟨List.nodup_cons.mpr ⟨hnew, h.nodup⟩, ?_, ?_⟩
  · simpa using ⟨hchain, h.chained⟩
  · intro other hother
    rcases List.mem_cons.mp hother with rfl | hother
    · exact ⟨hkind, file, search_of_locate hlocate⟩
    · exact h.found other hother

/-- Requiring a module completes if only modules before it in the chain are running, and if
there is room for all modules that are not on the trail. -/
lemma completes_requireWithin (depth : ℕ) (hconfines : compiler.Confines fs kind room)
    (htrail : compiler.Trail fs kind chain trail) (hroom : room < depth + trail.length)
    (hkind : kind path) (hnew : path ∉ trail) (hchain : path ∈ chain.modules)
    {before : Session α (Journal α)} (hwithin : before.Within chain)
    (hidle : before.cache.cells[path]? ≠ some .running) :
    (compiler.requireWithin fs depth path chain).Completes before := by
  induction depth generalizing path chain trail before with
  | zero =>
      have hlength := hconfines.length_le htrail.nodup htrail.found
      omega
  | succ depth ih =>
      rw [requireWithin]
      refine Work.Completes.bind ⟨before, before, Work.leads_get.mpr ⟨rfl, rfl⟩⟩
        fun _ _ hget => ?_
      obtain ⟨rfl, rfl⟩ := Work.leads_get.mp hget
      refine Work.completes_note.bind fun _ noted hnoted => ?_
      rw [Work.leads_note.mp hnoted]
      refine Work.completes_requireWith hidle fun _ => ?_
      cases hlocate : compiler.locate fs path with
      | error failure => exact Work.completes_pure
      | ok file =>
          -- the module is on the trail while its imports are checked
          have hcons := htrail.cons hnew hchain hkind hlocate
          refine completes_compileWith (reliable_requireWithin compiler fs depth)
            (fun text target session hresolve htarget hsession => ?_) file
            (Session.Within.started hwithin hchain)
          refine ih (hcons.extend target) (by rw [List.length_cons]; omega)
            (hconfines.resolve hkind hresolve)
            (fun hmem => htarget (hcons.chained target hmem)) (by simp)
            (fun other hother => List.mem_append_left _ (hsession other hother))
            fun hrunning => htarget (hsession target hrunning)

/-- A module outside of a chain can be required if all modules that are running are in the
chain and there is room for all modules of its kind. -/
lemma completes_requireWithin_extend (hconfines : compiler.Confines fs kind room)
    (hroom : room < depth) (hkind : kind target) (htarget : target ∉ chain.modules)
    {session : Session α (Journal α)} (hwithin : session.Within chain) :
    (compiler.requireWithin fs depth target (chain.extend target)).Completes session :=
  completes_requireWithin depth hconfines (Trail.nil kind _) (by simpa using hroom) hkind
    (by simp) (by simp) (fun other hother => List.mem_append_left _ (hwithin other hother))
    fun hrunning => htarget (hwithin target hrunning)

lemma nestingBound_eq (path : ModulePath) : compiler.nestingBound fs path =
    2 * ((path.dirs.length + 2) * compiler.findings fs) + 2 := by
  rw [nestingBound, Nat.mul_assoc]

/-- A module of a chain can be required when no module is running. -/
theorem completes_require (hchain : path ∈ chain.modules) {before : Session α (Journal α)}
    (hidle : before.Idle) : (compiler.require fs path chain).Completes before := by
  unfold require
  obtain ⟨depth, hdepth⟩ : ∃ depth, compiler.nestingBound fs path = depth + 1 :=
    ⟨_, rfl⟩
  rw [hdepth, requireWithin]
  refine Work.Completes.bind ⟨before, before, Work.leads_get.mpr ⟨rfl, rfl⟩⟩
    fun _ _ hget => ?_
  obtain ⟨rfl, rfl⟩ := Work.leads_get.mp hget
  refine Work.completes_note.bind fun _ noted hnoted => ?_
  rw [Work.leads_note.mp hnoted]
  refine Work.completes_requireWith (hidle path) fun _ => ?_
  cases compiler.locate fs path with
  | error failure => exact Work.completes_pure
  | ok file =>
      have hroom : (path.dirs.length + 2) * compiler.findings fs < depth := by
        rw [nestingBound_eq] at hdepth
        omega
      refine completes_compileWith (reliable_requireWithin compiler fs depth)
        (fun text target session hresolve htarget hsession => ?_) file
        (Session.Within.started (hidle.within chain) hchain)
      exact completes_requireWithin_extend (confines_descends compiler fs path) hroom
        ((Descends.refl path).resolveImport hresolve) htarget hsession

/-- A file can be compiled when no module is running, with modules nested as deep as there is
room for those that its imports lead to. -/
lemma completes_compileFileWithin {file : FileName} (hconfines : compiler.Confines fs kind room)
    (hroom : room < depth)
    (hkind : ∀ {path target : ModulePath} {text : String},
      compiler.modulePathOf fs file = .ok path → resolveImport path text = .ok target →
        kind target)
    {before : Session α (Journal α)} (hidle : before.Idle) :
    (compiler.compileFileWithin fs depth file).Completes before := by
  rw [compileFileWithin]
  cases hpath : compiler.modulePathOf fs file with
  | error diagnostic => exact Work.completes_pure
  | ok path =>
      refine Work.Completes.bind ?_ fun _ _ _ => Work.completes_pure
      refine Work.completes_requireWith (hidle path) fun _ => ?_
      refine completes_compileWith (reliable_requireWithin compiler fs depth)
        (fun text target session hresolve htarget hsession => ?_) file
        (Session.Within.started (hidle.within _) (by simp))
      exact completes_requireWithin_extend hconfines hroom (hkind hpath hresolve) htarget hsession

/-- A file can be compiled when no module is running. -/
theorem completes_compileFile (file : FileName) {before : Session α (Journal α)}
    (hidle : before.Idle) : (compiler.compileFile fs file).Completes before := by
  rw [compileFile]
  cases hpath : compiler.modulePathOf fs file with
  | error diagnostic =>
      simp only [compileFileWithin, hpath]
      exact Work.completes_pure
  | ok path =>
      have hroom : (path.dirs.length + 2) * compiler.findings fs <
          compiler.nestingBound fs path := by
        rw [nestingBound_eq]
        omega
      refine completes_compileFileWithin (confines_descends compiler fs path) hroom
        (fun hpath' hresolve => ?_) hidle
      obtain rfl := Except.ok.inj (hpath.symm.trans hpath')
      exact (Descends.refl path).resolveImport hresolve

end Compiler

end BriskModules
