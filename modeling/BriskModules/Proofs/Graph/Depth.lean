import BriskModules.Proofs.Graph.Agreement
import BriskModules.Proofs.Graph.Chain
import BriskModules.Proofs.Module.Derivation
import BriskModules.Proofs.Module.Places

/-!
How deep modules are nested.

A file that is compiled has a well-formed module path, and so have all modules that its imports
lead to. The file of such a module, if it is found, is a source file below a directory that is
searched, and the two places tell the module. So the modules in a chain that have been located
are no more than the pairs of such a directory and such a file.

* `Compiler.sources`: these pairs;
* `confines_named`: they bound the number of modules that can be located;
* `leads_requireWithin_mono`: modules that may be nested deeper come out the same;
* `nested_requireWithin`: the chains of the modules that are required are no longer than the
  depth allows;
* `completes_of_reached`: compiling a file always completes, and how deep modules are nested.
-/

namespace BriskModules

variable {α : Type}

/-! ### Modules by the places of their files -/

/-- Whether a location is named like that of a source file. -/
def isSource (location : Location) : Bool := (location.getLast?.bind sourceStem?).isSome

/-- From a well-formed module, imports lead to well-formed ones. -/
lemma Descends.wellFormed {origin path : ModulePath} (h : Descends origin path)
    (horigin : origin.WellFormed) (hfile : isIdentifier path.file = true) :
    path.WellFormed := by
  cases h with
  | inside kept names last hkept hnames =>
      intro segment hsegment
      simp only [ModulePath.segments, List.mem_append, List.mem_singleton] at hsegment
      rcases hsegment with (hpackage | hkeptDir | hname) | rfl
      · exact horigin segment (by simp [ModulePath.segments, hpackage])
      · exact horigin segment (by simp [ModulePath.segments, List.mem_of_mem_take hkeptDir])
      · exact hnames segment hname
      · exact hfile
  | abroad package dirs last hpackage hdirs =>
      intro segment hsegment
      simp only [ModulePath.segments, Option.toList_some, List.mem_append,
        List.mem_singleton] at hsegment
      rcases hsegment with (rfl | hdir) | rfl
      · exact hpackage
      · exact hdirs segment hdir
      · exact hfile

namespace Compiler

variable (compiler : Compiler α) (fs : Filesystem)

/-- The pairs of a directory on one of the search paths and a source file below it. -/
def sources : Finset (Location × Location) :=
  (((compiler.options.sourcePath.dirs ++ compiler.options.interfacePath.dirs).filterMap
      fs.place?).toFinset ×ˢ fs.files.toFinset).filter
    fun (place, file) => place <+: file ∧ isSource file = true

/-- A module whose segments are identifiers, in the package that is compiled or in one that has
a name. -/
structure Named (path : ModulePath) : Prop where
  wellFormed : path.WellFormed
  package : compiler.isOwn path = true ∨ path.package.isSome = true

/-- The file of a module lies below the place of a directory where its segments lead. -/
def LiesAt (path : ModulePath) (source : Location × Location) : Prop :=
  source.2 = source.1 ++ ((compiler.searched path).package.toList ++
    (compiler.searched path).dirs ++
      [(compiler.searched path).baseName (compiler.extensionOf path)])

lemma dot_notMem_extensionOf (path : ModulePath) :
    '.' ∉ (compiler.extensionOf path).toList := by
  rw [extensionOf]
  split_ifs <;> decide

variable {compiler fs} {path other current target : ModulePath} {source : Location × Location}

lemma Named.searched (h : compiler.Named path) : (compiler.searched path).WellFormed := by
  rw [Compiler.searched]
  split_ifs
  · intro segment hsegment
    simp only [ModulePath.withoutPackage, ModulePath.segments, Option.toList_none,
      List.nil_append] at hsegment
    refine h.wellFormed segment ?_
    rw [ModulePath.segments, List.append_assoc]
    exact List.mem_append_right _ hsegment
  · exact h.wellFormed

/-- Imports lead from a named module to a named one. -/
lemma Named.resolveImport {text : String} (h : compiler.Named current)
    (htarget : resolveImport current text = .ok target) : compiler.Named target := by
  obtain ⟨hdescends, hfile⟩ := (Descends.refl current).resolveImport htarget
  refine ⟨hdescends.wellFormed h.wellFormed hfile, ?_⟩
  cases hdescends with
  | inside => exact h.package
  | abroad => exact .inr rfl

/-- The file that is found for a named module makes a pair with a directory. -/
lemma exists_mem_sources (h : compiler.Named path) {file : FileName}
    (hsearch : compiler.search fs path = .ok file) :
    ∃ source ∈ compiler.sources fs, compiler.LiesAt path source := by
  obtain ⟨dir, hdir, hname, hreadable⟩ := compiler.exists_of_search fs hsearch
  rw [hname] at hreadable
  obtain ⟨location, hfollow, hmem⟩ := Filesystem.exists_follow_of_isReadable hreadable
  obtain ⟨place, hplace, hlocation⟩ := ModulePath.eq_append_of_follow h.searched
    (compiler.isExtension_extensionOf path) hfollow
  have hdirs : dir ∈ compiler.options.sourcePath.dirs ++ compiler.options.interfacePath.dirs := by
    rw [directoriesOf] at hdir
    split_ifs at hdir
    · exact List.mem_append_left _ hdir
    · exact List.mem_append_right _ hdir
  have hsource : isSource location = true := by
    have hfile : isIdentifier (compiler.searched path).file = true :=
      h.searched _ (by simp [ModulePath.segments])
    have hsplit := ModulePath.splitExtension_baseName hfile
      (compiler.dot_notMem_extensionOf path)
    have hextension : compiler.extensionOf path = implementationExtension ∨
        compiler.extensionOf path = interfaceExtension := by
      rw [extensionOf]
      split_ifs <;> simp
    rw [isSource, hlocation, ← List.append_assoc, List.getLast?_concat, Option.bind_some,
      sourceStem?_eq_some_iff.mpr ⟨_, hsplit, hextension⟩]
    rfl
  refine ⟨(place, location), ?_, hlocation⟩
  simp only [sources, Finset.mem_filter, Finset.mem_product, List.mem_toFinset,
    List.mem_filterMap]
  exact ⟨⟨⟨dir, hdirs, hplace⟩, hmem⟩, ⟨_, hlocation.symm⟩, hsource⟩

/-- Named modules whose files make the same pair are the same. -/
lemma LiesAt.unique (h : compiler.LiesAt path source) (h' : compiler.LiesAt other source)
    (hnamed : compiler.Named path) (hnamed' : compiler.Named other) : path = other := by
  rw [LiesAt] at h h'
  obtain ⟨hsegments, hbase⟩ := List.append_inj' (List.append_cancel_left (h.symm.trans h')) rfl
  have hfile : ∀ {path}, compiler.Named path →
      isIdentifier (compiler.searched path).file = true :=
    fun hnamed => hnamed.searched _ (by simp [ModulePath.segments])
  obtain ⟨hfiles, hextension⟩ := ModulePath.baseName_inj (hfile hnamed) (hfile hnamed')
    (compiler.dot_notMem_extensionOf path) (compiler.dot_notMem_extensionOf other)
    (List.singleton_inj.mp hbase)
  rw [compiler.file_searched, compiler.file_searched] at hfiles
  obtain ⟨package, dirs, file⟩ := path
  obtain ⟨package', dirs', file'⟩ := other
  obtain rfl : file = file' := hfiles
  -- the extension tells whether the package is the own one; another one is among the segments
  cases hown : compiler.isOwn ⟨package, dirs, file⟩ with
  | true =>
      have hown' : compiler.isOwn ⟨package', dirs', file⟩ = true := by
        by_contra hforeign
        simp [extensionOf, hown, hforeign, implementationExtension, interfaceExtension]
          at hextension
      simp only [searched, hown, hown', ↓reduceIte, ModulePath.withoutPackage,
        Option.toList_none, List.nil_append] at hsegments
      simp only [isOwn, ModulePath.isInPackage, decide_eq_true_eq] at hown hown'
      rw [hown, hown', hsegments]
  | false =>
      have hown' : compiler.isOwn ⟨package', dirs', file⟩ = false := by
        by_contra hforeign
        simp [extensionOf, hown, hforeign, implementationExtension, interfaceExtension]
          at hextension
      have hpackage := hnamed.package
      have hpackage' := hnamed'.package
      simp only [hown, hown', Bool.false_eq_true, false_or] at hpackage hpackage'
      obtain ⟨name, rfl⟩ := Option.isSome_iff_exists.mp hpackage
      obtain ⟨name', rfl⟩ := Option.isSome_iff_exists.mp hpackage'
      simp only [searched, hown, hown', Bool.false_eq_true, ↓reduceIte, Option.toList_some,
        List.singleton_append, List.cons.injEq] at hsegments
      rw [hsegments.1, hsegments.2]

variable (compiler fs) in
/-- The named modules that are located are no more than the pairs of a directory and a source
file. -/
lemma confines_named : compiler.Confines fs compiler.Named (compiler.sources fs).card := by
  classical
  refine ⟨Named.resolveImport, fun {trail} hnodup hfound => ?_⟩
  have hsource : ∀ path : ModulePath, ∃ source, path ∈ trail →
      source ∈ compiler.sources fs ∧ compiler.LiesAt path source := by
    intro path
    by_cases hpath : path ∈ trail
    · obtain ⟨hnamed, file, hsearch⟩ := hfound path hpath
      obtain ⟨source, hmem, hlies⟩ := exists_mem_sources hnamed hsearch
      exact ⟨source, fun _ => ⟨hmem, hlies⟩⟩
    · exact ⟨([], []), fun hmem => absurd hmem hpath⟩
  choose way hway using hsource
  have hmaps : Set.MapsTo way trail.toFinset (compiler.sources fs) := by
    intro path hpath
    exact (hway path (by simpa using hpath)).1
  have hinjective : Set.InjOn way trail.toFinset := by
    intro path hpath other hother heq
    have hpath : path ∈ trail := by simpa using hpath
    have hother : other ∈ trail := by simpa using hother
    exact (hway path hpath).2.unique (heq ▸ (hway other hother).2) (hfound path hpath).1
      (hfound other hother).1
  calc trail.length = trail.toFinset.card := (List.toFinset_card_of_nodup hnodup).symm
    _ ≤ (compiler.sources fs).card := Finset.card_le_card_of_injOn way hmaps hinjective

end Compiler

/-! ### More depth than is needed -/

/-- Another way to require modules that leads wherever the first one does. -/
def Extends (require require' : ModulePath → ImportChain → Compiling α (CompileResult α)) :
    Prop :=
  ∀ {path chain before result after}, (require path chain).Leads before result after →
    (require' path chain).Leads before result after

section Extension

variable {require require' : ModulePath → ImportChain → Compiling α (CompileResult α)}
  {path current : ModulePath} {chain : ImportChain} {before after : Session α (Journal α)}

lemma leads_checkEach_mono (hextends : Extends require require') {decls : List Import}
    {imports : Imports α} {checked : Imports α × List ImportError}
    (h : Work.Leads (checkEach current require decls imports) before checked after) :
    Work.Leads (checkEach current require' decls imports) before checked after := by
  induction decls generalizing imports before checked after with
  | nil => exact h
  | cons decl more ih =>
      rw [checkEach, Work.leads_bind] at h ⊢
      obtain ⟨outcome, middle, himport, hrest⟩ := h
      refine ⟨outcome, middle, ?_, ?_⟩
      · rw [checkImport] at himport ⊢
        cases htarget : importTarget decl current imports with
        | error error => simpa only [htarget] using himport
        | ok target =>
            simp only [htarget, Work.leads_bind] at himport ⊢
            obtain ⟨result, last, hrequire, hlast⟩ := himport
            exact ⟨result, last, hextends hrequire, hlast⟩
      · cases outcome with
        | error error =>
            simp only [Work.leads_bind] at hrest ⊢
            obtain ⟨others, last, hmore, hlast⟩ := hrest
            exact ⟨others, last, ih hmore, hlast⟩
        | ok accepted => exact ih hrest

variable {compiler : Compiler α} {fs : Filesystem} {result : CompileResult α}

namespace Compiler

lemma leads_compileWith_mono (hextends : Extends require require') {file : FileName}
    (h : (compiler.compileWith fs require path chain file).Leads before result after) :
    (compiler.compileWith fs require' path chain file).Leads before result after := by
  rw [compileWith] at h ⊢
  cases hread : fs.readText file with
  | error error => simpa only [hread] using h
  | ok text =>
      simp only [hread, Work.leads_bind] at h ⊢
      obtain ⟨value, middle, hnote, h⟩ := h
      refine ⟨value, middle, hnote, ?_⟩
      cases hparse : compiler.frontend.parse file text path with
      | error diagnostics => simpa only [hparse] using h
      | ok unit =>
          simp only [hparse, compileUnit, checkImports, bind_assoc, Work.leads_bind] at h ⊢
          obtain ⟨checked, last, hchecks, h⟩ := h
          exact ⟨checked, last, leads_checkEach_mono hextends hchecks, h⟩

lemma leads_requireWith_mono {compile compile' : Compiling α (CompileResult α)}
    (hcompile : ∀ {before result after}, compile.Leads before result after →
      compile'.Leads before result after)
    (h : (Cache.requireWith path compile).Leads before result after) :
    (Cache.requireWith path compile').Leads before result after := by
  rw [Work.leads_requireWith] at h ⊢
  cases h with
  | known cell => exact .known cell
  | made cell making => exact .made cell (hcompile making)

/-- Modules that may be nested deeper come out the same. -/
lemma leads_requireWithin_mono {depth depth' : ℕ} (hdepth : depth ≤ depth') :
    Extends (compiler.requireWithin fs depth) (compiler.requireWithin fs depth') := by
  induction depth generalizing depth' with
  | zero =>
      intro path chain before result after h
      exact absurd h Work.not_leads_stuck
  | succ depth ih =>
      intro path chain before result after h
      obtain ⟨depth', rfl⟩ : ∃ deeper, depth' = deeper + 1 := ⟨depth' - 1, by omega⟩
      simp only [requireWithin, Work.leads_bind] at h ⊢
      obtain ⟨session, first, hget, value, noted, hnote, h⟩ := h
      refine ⟨session, first, hget, value, noted, hnote, leads_requireWith_mono ?_ h⟩
      intro before result after h
      cases hlocate : compiler.locate fs path with
      | error failure => simpa only [hlocate] using h
      | ok file =>
          simp only [hlocate] at h ⊢
          exact leads_compileWith_mono (ih (by omega)) h

/-- So does a file. -/
lemma leads_compileFileWithin_mono {depth depth' : ℕ} (hdepth : depth ≤ depth')
    {file : FileName} {outcome : Except (List Diagnostic) (ModuleInfo α)}
    (h : (compiler.compileFileWithin fs depth file).Leads before outcome after) :
    (compiler.compileFileWithin fs depth' file).Leads before outcome after := by
  rw [compileFileWithin] at h ⊢
  cases hpath : compiler.modulePathOf fs file with
  | error diagnostic => simpa only [hpath] using h
  | ok path =>
      simp only [hpath, Work.leads_bind] at h ⊢
      obtain ⟨result, middle, hrequire, h⟩ := h
      exact ⟨result, middle, leads_requireWith_mono
        (leads_compileWith_mono (leads_requireWithin_mono hdepth)) hrequire, h⟩

end Compiler

end Extension

/-! ### Chains no longer than the depth -/

lemma Cache.nodup_running (cache : Cache α) : cache.running.Nodup :=
  Std.ExtTreeMap.nodup_keys.filter _

/-- A module is required at the end of a chain that is no longer than `limit`, while no module
is running twice. -/
def Event.Nested (limit : ℕ) : Event α → Prop
  | .required _ chain running => chain.modules.length ≤ limit ∧ running.Nodup
  | _ => True

namespace Compiler

variable {compiler : Compiler α} {fs : Filesystem} {requires : Requiring α}
  {path : ModulePath} {chain : ImportChain} {file : FileName} {result : CompileResult α}
  {before after : Session α (Journal α)} {limit : ℕ}

/-- Compiling a module nests modules no deeper than requiring its imports does. -/
lemma Compilation.nested
    (hrequires : ∀ {target before result after},
      requires target (chain.extend target) before result after →
        Session.Adds (Event.Nested limit) before after)
    (h : compiler.Compilation fs requires path chain file before result after) :
    Session.Adds (Event.Nested limit) before after := by
  refine h.preserves (Session.Adds (Event.Nested limit) before ·) ?_ ?_ (.refl before)
  · intro session event hinner hadds
    have hevent : event.Nested limit := by cases event <;> trivial
    exact hadds.trans (Session.adds_noted session hevent)
  · intro unit parses decl hdecl target result first last hresolve hnew hrequired hadds
    exact hadds.trans (hrequires hrequired)

/-- Each module that is nested makes the chain longer by one. -/
lemma nested_requireWithin {depth : ℕ}
    (h : compiler.requiring fs depth path chain before result after)
    (hlimit : chain.modules.length + depth ≤ limit + 1) :
    Session.Adds (Event.Nested limit) before after := by
  induction depth generalizing path chain before result after with
  | zero => exact absurd h Work.not_leads_stuck
  | succ depth ih =>
      have hevent : (Event.required (α := α) path chain before.cache.running).Nested limit :=
        ⟨by omega, before.cache.nodup_running⟩
      have hextended : ∀ target, (chain.extend target).modules.length + depth ≤ limit + 1 := by
        intro target
        rw [ImportChain.modules_extend, List.length_append, List.length_singleton]
        omega
      refine (Session.adds_noted before hevent).trans (adds_of_search ?_ (search_of_leads h))
      exact fun file after _ hcompiles =>
        hcompiles.nested fun hrequired => ih hrequired (hextended _)

/-- The chains that a file is compiled with are longer by the outermost module. -/
lemma nested_compileFileWithin {depth : ℕ}
    {outcome : Except (List Diagnostic) (ModuleInfo α)}
    (h : (compiler.compileFileWithin fs depth file).Leads before outcome after) :
    Session.Adds (Event.Nested (depth + 1)) before after := by
  rcases compileFileWithin_of_leads h with ⟨-, -, -, rfl⟩ | ⟨path, result, -, hfills, -⟩
  · exact .refl _
  · have hextended : ∀ target,
        ((ImportChain.root path).extend target).modules.length + depth ≤ depth + 1 + 1 := by
      intro target
      simp only [ImportChain.modules_extend, ImportChain.modules_root, List.length_append,
        List.length_singleton]
      omega
    refine adds_of_fills (fun after hcompiles => ?_) hfills
    exact hcompiles.nested fun hrequired => nested_requireWithin hrequired (hextended _)

/-- While a module is entered, one module less is running than there are in the chain. -/
lemma length_running {outermost : Option ModulePath} {running : List ModulePath}
    (h : Entered outermost path chain running) (hnodup : running.Nodup) :
    running.length + 1 = chain.modules.length := by
  have hperm : (path :: running).Perm chain.modules := by
    have hpath : path ∉ running := fun hmem => ((h.running path).mp hmem).2 rfl
    rw [List.perm_ext_iff_of_nodup (List.nodup_cons.mpr ⟨hpath, hnodup⟩) h.nodup]
    intro other
    rw [List.mem_cons, h.running]
    by_cases hother : other = path
    · simpa [hother] using List.mem_of_getLast? h.last
    · simp [hother]
  exact hperm.length_eq

variable (compiler) in
/-- **Compiling a file always completes**, whatever calls have completed before and whatever the
files import, none of which is a link, and modules are nested no deeper than there are pairs of a
directory on a search path and a source file below it, and two more: with room for that the outcome
does not depend on how deep modules may be nested, and each module is required in a chain no longer
than that, while all others in the chain are running. -/
theorem completes_of_reached (fs : Filesystem) (file : FileName)
    (hreached : compiler.Reached before) :
    ∃ outcome after events, (compiler.compileFile fs file).Leads before outcome after ∧
      (∀ depth, (compiler.sources fs).card < depth →
        (compiler.compileFileWithin fs depth file).Leads before outcome after) ∧
      after.record = before.record ++ events ∧
      ∀ path chain running, Event.required path chain running ∈ events →
        running.length + 1 = chain.modules.length ∧
          chain.modules.length ≤ (compiler.sources fs).card + 2 := by
  have hidle := hreached.idle
  have hnamed : ∀ {path target : ModulePath} {text : String},
      compiler.modulePathOf fs file = .ok path → resolveImport path text = .ok target →
        compiler.Named target := by
    intro path target text hpath hresolve
    have hderived : deriveModulePath fs file compiler.options.sourceRoot
        compiler.options.package = .ok path := by
      rw [modulePathOf] at hpath
      split at hpath
      · next heq => rw [heq, Except.ok.inj hpath]
      · simp at hpath
    obtain ⟨hwellFormed, hpackage⟩ := ModulePath.wellFormed_of_deriveModulePath hderived
    have hown : compiler.isOwn path = true := by
      simp [isOwn, ModulePath.isInPackage, hpackage]
    exact Named.resolveImport ⟨hwellFormed, .inl hown⟩ hresolve
  obtain ⟨outcome, after, hleads⟩ := completes_compileFileWithin
    (confines_named compiler fs) (Nat.lt_succ_self _) hnamed hidle
  have hdeeper : ∀ depth, (compiler.sources fs).card < depth →
      (compiler.compileFileWithin fs depth file).Leads before outcome after :=
    fun depth hdepth => leads_compileFileWithin_mono hdepth hleads
  -- the bound that the compiler goes by is deep enough
  obtain ⟨outcome', after', hcompile⟩ := completes_compileFile file hidle
  have hsame : outcome' = outcome ∧ after' = after :=
    (leads_compileFileWithin_mono (le_max_left _ _) hcompile).unique
      (leads_compileFileWithin_mono (le_max_right _ _) hleads)
  rw [hsame.1, hsame.2] at hcompile
  obtain ⟨events, hrecord, hnested⟩ := nested_compileFileWithin hleads
  refine ⟨outcome, after, events, hcompile, hdeeper, hrecord, fun path chain running hmem => ?_⟩
  obtain ⟨events', hrecord', hproper⟩ := (performance_of_compileFile hcompile).adds rfl hidle
  obtain rfl : events' = events := List.append_cancel_left (hrecord'.symm.trans hrecord)
  have hentered : Entered _ path chain running := hproper _ hmem
  obtain ⟨hlength, hnodup⟩ : chain.modules.length ≤ (compiler.sources fs).card + 1 + 1 ∧
      running.Nodup := hnested _ hmem
  exact ⟨length_running hentered hnodup, hlength⟩

/-- Two modules that import each other, after one of them has been required when there were no
files: both files are below the current directory. -/
theorem completes_of_reached_mutual :
    ∃ before, (ofSyntaxTrees {}).Reached before ∧
      ((ofSyntaxTrees {}).sources mutualFiles).card = 2 ∧
      ∃ outcome after events,
        ((ofSyntaxTrees {}).compileFile mutualFiles ⟨"a.brk"⟩).Leads before outcome after ∧
        (∀ depth, 2 < depth →
          ((ofSyntaxTrees {}).compileFileWithin mutualFiles depth ⟨"a.brk"⟩).Leads before outcome
            after) ∧
        after.record = before.record ++ events ∧
        ∀ path chain running, Event.required path chain running ∈ events →
          running.length + 1 = chain.modules.length ∧ chain.modules.length ≤ 2 + 2 := by
  have hpath : (⟨none, [], "b"⟩ : ModulePath) ∈ (ImportChain.root ⟨none, [], "b"⟩).modules :=
    List.mem_singleton_self _
  obtain ⟨result, before, hrequire⟩ : ((ofSyntaxTrees {}).require (.empty []) ⟨none, [], "b"⟩
      (.root ⟨none, [], "b"⟩)).Completes .fresh := completes_require hpath Session.idle_fresh
  have hreached : (ofSyntaxTrees {}).Reached before := .require _ .fresh hrequire
  have hcard : ((ofSyntaxTrees {}).sources mutualFiles).card = 2 := by decide +kernel
  have hcompletes := completes_of_reached (ofSyntaxTrees {}) mutualFiles ⟨"a.brk"⟩ hreached
  rw [hcard] at hcompletes
  exact ⟨before, hreached, hcard, hcompletes⟩

end Compiler

end BriskModules
