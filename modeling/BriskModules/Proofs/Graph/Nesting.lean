import BriskModules.Graph.Compiler
import BriskModules.Proofs.Import.Path
import BriskModules.Proofs.Module.Files

/-!
How many modules can be found from a module on.

Import paths keep the package of a module and some of its directories, or lead abroad; all
names they add are identifiers. So a module that is found is known by what was kept, by the
directory below which it was found and by the location of its file, and different modules
differ in one of these.

* `Descends`: the module paths that import paths lead to from an origin;
* `Descends.resolve`: they are closed under import paths;
* `Compiler.FoundAt`: what a module that is found is known by;
* `length_le_of_found`: there are no more modules to be found than ways to find them.
-/

namespace BriskModules

/-! ### Where import paths lead -/

/-- A module path that import paths lead to from `origin`: in its package and below some of
its directories, or in a package that is named. -/
inductive Descends (origin : ModulePath) : ModulePath → Prop where
  | inside (kept : ℕ) (names : List String) (file : String) (hkept : kept ≤ origin.dirs.length)
      (hnames : ∀ name ∈ names, isIdentifier name = true) :
      Descends origin ⟨origin.package, origin.dirs.take kept ++ names, file⟩
  | abroad (package : String) (dirs : List String) (file : String)
      (hpackage : isIdentifier package = true)
      (hdirs : ∀ dir ∈ dirs, isIdentifier dir = true) :
      Descends origin ⟨some package, dirs, file⟩

namespace Descends

variable {origin current target : ModulePath}

lemma refl (origin : ModulePath) : Descends origin origin := by
  have h : Descends origin ⟨origin.package, origin.dirs.take origin.dirs.length ++ [],
      origin.file⟩ := .inside _ _ _ le_rfl (by simp)
  simpa using h

/-- An import path leads from there to there again, and to a file that is an identifier. -/
lemma resolve {path : ImportPath} (h : Descends origin current) (hpath : path.WellFormed)
    (htarget : path.resolve current = .ok target) :
    Descends origin target ∧ isIdentifier target.file = true := by
  rcases ImportPath.eq_of_resolve htarget with ⟨name, hstart, rfl⟩ | ⟨kept, rfl⟩
  · exact ⟨.abroad name _ _ (hpath.package name hstart) hpath.dirs, hpath.file⟩
  · refine ⟨?_, hpath.file⟩
    cases h with
    | inside front names _ hfront hnames =>
        rw [List.take_append, List.take_take, List.append_assoc]
        refine .inside _ _ _ (le_trans (Nat.min_le_right _ _) hfront) fun name hname => ?_
        exact (List.mem_append.mp hname).elim
          (fun h => hnames name (List.mem_of_mem_take h)) (hpath.dirs name)
    | abroad package others _ hpackage hothers =>
        refine .abroad package _ _ hpackage fun name hname => ?_
        exact (List.mem_append.mp hname).elim
          (fun h => hothers name (List.mem_of_mem_take h)) (hpath.dirs name)

/-- The text of an import leads there as well. -/
lemma resolveImport {text : String} (h : Descends origin current)
    (htarget : resolveImport current text = .ok target) :
    Descends origin target ∧ isIdentifier target.file = true := by
  simp only [BriskModules.resolveImport] at htarget
  cases hparse : ImportPath.parse text with
  | error error => simp [hparse] at htarget
  | ok path =>
      cases hresolve : path.resolve current with
      | error error => simp [hparse, hresolve] at htarget
      | ok found =>
          simp only [hparse, hresolve, Except.ok.injEq] at htarget
          rw [← htarget]
          exact h.resolve (ImportPath.wellFormed_of_parse hparse) hresolve

end Descends

/-! ### What a module is found by -/

namespace Compiler

variable {α : Type} (compiler : Compiler α) (fs : Filesystem)

/-- The path by which the file of a module is searched: the own package is left out. -/
def searched (path : ModulePath) : ModulePath :=
  if compiler.isOwn path then path.withoutPackage else path

/-- The extension of the file of a module. -/
def extensionOf (path : ModulePath) : String :=
  if compiler.isOwn path then implementationExtension else interfaceExtension

/-- The directories in which the file of a module is searched. -/
def directoriesOf (own : Bool) : List FileName :=
  if own then compiler.options.sourcePath.dirs else compiler.options.interfacePath.dirs

lemma file_searched (path : ModulePath) : (compiler.searched path).file = path.file := by
  simp only [searched]
  split_ifs <;> rfl

lemma isExtension_extensionOf (path : ModulePath) :
    ModulePath.IsExtension (compiler.extensionOf path) := by
  simp only [extensionOf]
  split_ifs
  · exact ModulePath.isExtension_implementation
  · exact ModulePath.isExtension_interface

/-- The file of a module lies below one of the directories in which it is searched, and may be
opened. -/
lemma exists_of_search {path : ModulePath} {file : FileName}
    (h : compiler.search fs path = .ok file) :
    ∃ dir ∈ compiler.directoriesOf (compiler.isOwn path),
      file = dir.join ((compiler.searched path).relativeFile (compiler.extensionOf path)) ∧
        fs.isReadable file = true := by
  simp only [search, directoriesOf, searched, extensionOf] at h ⊢
  split_ifs at h ⊢ with hown
  · exact SearchPath.exists_of_findIn h
  · exact SearchPath.exists_of_findIn h

variable {compiler fs} in
/-- A module is located where it is found. -/
lemma search_of_locate {path : ModulePath} {file : FileName}
    (h : compiler.locate fs path = .ok file) : compiler.search fs path = .ok file := by
  unfold locate at h
  cases hsearch : compiler.search fs path with
  | error tried => simp [hsearch] at h
  | ok found => simpa [hsearch] using h

/-- The ways to find a module: how many directories of the origin are kept if its package is,
below which directory of which search path it is, and where its file is. -/
abbrev Finding := Option ℕ × (Bool × FileName) × Location

/-- The segments of an origin that are kept. -/
def keptSegments (origin : ModulePath) (own : Bool) : Option ℕ → List String
  | some kept => (if own then [] else origin.package.toList) ++ origin.dirs.take kept
  | none => []

/-- A module that is found from an origin in one of the ways to find modules. -/
structure FoundAt (origin path : ModulePath) (finding : Finding) : Prop where
  package : if finding.1.isSome then path.package = origin.package else path.package.isSome
  own : compiler.isOwn path = finding.2.1.1
  file : isIdentifier path.file = true
  segments : ∃ names : List String, (∀ name ∈ names, isIdentifier name = true) ∧
    (compiler.searched path).segments =
      keptSegments origin finding.2.1.1 finding.1 ++ names ++ [path.file]
  location : fs.follow (finding.2.1.2.join
    ((compiler.searched path).relativeFile (compiler.extensionOf path))) = .ok finding.2.2

variable {compiler fs}

/-- Different modules are found in different ways. -/
lemma FoundAt.unique {origin path other : ModulePath} {finding : Finding}
    (h : compiler.FoundAt fs origin path finding)
    (h' : compiler.FoundAt fs origin other finding) : path = other := by
  have hown : compiler.isOwn path = compiler.isOwn other := h.own.trans h'.own.symm
  have hextension : compiler.extensionOf other = compiler.extensionOf path := by
    simp only [extensionOf, hown]
  obtain ⟨names, hnames, hsegments⟩ := h.segments
  obtain ⟨others, hothers, hsegments'⟩ := h'.segments
  have hlocation' := h'.location
  rw [hextension] at hlocation'
  rw [← compiler.file_searched] at hsegments hsegments'
  have hsame := ModulePath.segments_eq_of_follow hsegments hnames
    (by rw [compiler.file_searched]; exact h.file) hsegments' hothers
    (by rw [compiler.file_searched]; exact h'.file) (compiler.isExtension_extensionOf path)
    h.location hlocation'
  obtain ⟨package, dirs, file⟩ := path
  obtain ⟨package', dirs', file'⟩ := other
  -- the own package is known anyway, and another one is kept or among the segments
  cases hcase : compiler.isOwn ⟨package, dirs, file⟩ with
  | true =>
      have hcase' := hown.symm.trans hcase
      simp only [searched, hcase, hcase', ↓reduceIte, ModulePath.withoutPackage,
        ModulePath.segments, Option.toList_none, List.nil_append] at hsame
      simp only [isOwn, ModulePath.isInPackage, decide_eq_true_eq] at hcase hcase'
      obtain ⟨hdirs, hfile⟩ := List.append_inj' hsame rfl
      rw [hcase, hcase', hdirs, (List.cons.inj hfile).1]
  | false =>
      have hcase' := hown.symm.trans hcase
      simp only [searched, hcase, hcase', Bool.false_eq_true, ↓reduceIte,
        ModulePath.segments] at hsame
      obtain ⟨hfront, hfile⟩ := List.append_inj' hsame rfl
      have hpackages : package.toList.length = package'.toList.length := by
        have hpackage := h.package
        have hpackage' := h'.package
        split_ifs at hpackage hpackage' with hkept
        · simp only at hpackage hpackage'
          rw [hpackage, hpackage']
        · cases package <;> cases package' <;> simp_all
      obtain ⟨hpackage, hdirs⟩ := List.append_inj hfront hpackages
      have hpackage : package = package' := by
        cases package <;> cases package' <;> simp_all
      rw [hpackage, hdirs, (List.cons.inj hfile).1]

variable (compiler fs)

/-- All ways in which modules can be found from an origin. -/
def allFindings (origin : ModulePath) : List Finding :=
  (none :: (List.range (origin.dirs.length + 1)).map some) ×ˢ
    ((compiler.directoriesOf true).map (true, ·) ++
      (compiler.directoriesOf false).map (false, ·)) ×ˢ fs.files

lemma length_allFindings (origin : ModulePath) :
    (compiler.allFindings fs origin).length =
      (origin.dirs.length + 2) * compiler.findings fs := by
  simp only [allFindings, findings, directoriesOf, List.length_product, List.length_cons,
    List.length_map, List.length_range, List.length_append, ↓reduceIte, Bool.false_eq_true]

variable {compiler fs}

/-- A module that is found on the way from an origin is found in one of these ways. -/
lemma exists_foundAt {origin path : ModulePath} {file : FileName} (h : Descends origin path)
    (hfile : isIdentifier path.file = true) (hsearch : compiler.search fs path = .ok file) :
    ∃ finding ∈ compiler.allFindings fs origin, compiler.FoundAt fs origin path finding := by
  obtain ⟨dir, hdir, hname, hreadable⟩ := compiler.exists_of_search fs hsearch
  rw [hname] at hreadable
  obtain ⟨location, hlocation, hfiles⟩ := Filesystem.exists_follow_of_isReadable hreadable
  have hmem : ∀ choice ∈ none :: (List.range (origin.dirs.length + 1)).map some,
      (choice, (compiler.isOwn path, dir), location) ∈ compiler.allFindings fs origin := by
    intro choice hchoice
    refine List.mem_product.mpr ⟨hchoice, List.mem_product.mpr ⟨?_, hfiles⟩⟩
    cases hown : compiler.isOwn path <;> simpa [hown] using hdir
  cases h with
  | inside kept names last hkept hnames =>
      refine ⟨_, hmem (some kept) (by simp; omega), by simp, rfl, hfile, ⟨names, hnames, ?_⟩,
        hlocation⟩
      simp only [searched, keptSegments]
      split_ifs <;> simp [ModulePath.segments, ModulePath.withoutPackage]
  | abroad package dirs last hpackage hdirs =>
      refine ⟨_, hmem none (by simp), by simp, rfl, hfile, ?_, hlocation⟩
      simp only [searched, keptSegments]
      split_ifs
      · exact ⟨dirs, hdirs, by simp [ModulePath.segments, ModulePath.withoutPackage]⟩
      · exact ⟨package :: dirs, by simpa [hpackage] using hdirs,
          by simp [ModulePath.segments]⟩

/-- There are no more different modules to be found than ways to find them. -/
lemma length_le_of_found {origin : ModulePath} {trail : List ModulePath} (hnodup : trail.Nodup)
    (h : ∀ path ∈ trail, Descends origin path ∧ isIdentifier path.file = true ∧
      ∃ file, compiler.search fs path = .ok file) :
    trail.length ≤ (origin.dirs.length + 2) * compiler.findings fs := by
  classical
  have hfound : ∀ path : ModulePath, ∃ finding, path ∈ trail →
      finding ∈ compiler.allFindings fs origin ∧ compiler.FoundAt fs origin path finding := by
    intro path
    by_cases hpath : path ∈ trail
    · obtain ⟨hdescends, hfile, file, hsearch⟩ := h path hpath
      obtain ⟨finding, hmem, hfinding⟩ := exists_foundAt hdescends hfile hsearch
      exact ⟨finding, fun _ => ⟨hmem, hfinding⟩⟩
    · exact ⟨(none, (true, ⟨""⟩), []), fun hmem => absurd hmem hpath⟩
  choose way hway using hfound
  have hinjective : (trail.map way).Nodup := by
    refine hnodup.map_on fun path hpath other hother heq => ?_
    exact (hway path hpath).2.unique (heq ▸ (hway other hother).2)
  have hsubset : trail.map way ⊆ compiler.allFindings fs origin := by
    intro finding hfinding
    obtain ⟨path, hpath, rfl⟩ := List.mem_map.mp hfinding
    exact (hway path hpath).1
  calc trail.length = (trail.map way).length := (List.length_map _).symm
    _ ≤ (compiler.allFindings fs origin).length := (hinjective.subperm hsubset).length_le
    _ = _ := compiler.length_allFindings fs origin

end Compiler

end BriskModules
