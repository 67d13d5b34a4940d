import BriskModules.CommandLine.Run
import BriskModules.Proofs.File.Name
import BriskModules.Proofs.Module.SearchPath

/-!
Where modules are searched if nobody says so.

A source root that is given alone is meant to be searched as well. On the command line the root is
a file name, and this file name is searched. In a manifest it is a text, and the text is read once
more as a search path, which need not be one directory of that name.

* `Options.SearchesRoot`: the source root is searched, and nothing else;
* `below_parse_eq_singleton_iff`: which roots are found again in the search path that is read of
  them;
* `searchesRoot_of_override`: a root that stands on the command line is always searched;
* `searchesRoot_ofManifest` (**which roots of manifests are searched**);
* `ofManifest_twoDirectories`: a root with a semicolon in its name is not.
-/

namespace BriskModules

open CommandLine (SourceArguments)

namespace Options

variable {options : Options} {manifest : Manifest} {base root : FileName}

/-- The source root is searched, and nothing else. -/
def SearchesRoot (options : Options) : Prop :=
  options.sourcePath.dirs = [options.sourceRoot]

/-- The source root as it stands in a manifest, or else the directory of the manifest. -/
def rootOf (manifest : Manifest) : FileName := ⟨manifest.sourceRoot.getD "."⟩

lemma withPackage_eq_ok {name : String} {named : Options}
    (h : options.withPackage name = .ok named) : named = { options with package := some name } := by
  rw [withPackage] at h
  split_ifs at h
  exact (Except.ok.inj h).symm

/-- The package makes no difference for the directories that come from a manifest. -/
lemma directories_of_ofManifest (h : ofManifest manifest base = .ok options) :
    options.sourceRoot = base.join (rootOf manifest) ∧
      options.sourcePath =
        (SearchPath.parse (manifest.sourcePath.getD (rootOf manifest).text)).below base := by
  rw [ofManifest] at h
  cases hname : manifest.name with
  | none =>
      simp only [hname, Except.ok.injEq] at h
      subst h
      exact ⟨rfl, rfl⟩
  | some name =>
      simp only [hname] at h
      rw [withPackage_eq_ok h]
      exact ⟨rfl, rfl⟩

/-- A root is found again in the search path that is read of its text, below a base directory or
not, if it can be a part of a search path. -/
lemma below_parse_eq_singleton_iff :
    ((SearchPath.parse root.text).below base).dirs = [base.join root] ↔
      SearchPath.IsEntry root := by
  rw [← SearchPath.parse_eq_singleton_iff]
  constructor
  · intro h
    obtain ⟨dir, hdirs, hjoin⟩ := List.map_eq_singleton_iff.mp h
    have hmem : dir ∈ (SearchPath.parse root.text).dirs := by simp [hdirs]
    have habsolute : root.isAbsolute = true → dir.isAbsolute = true := by
      intro hroot
      obtain ⟨first, hfirst, habsolute⟩ := SearchPath.exists_isAbsolute_of_parse hroot
      rw [hdirs] at hfirst
      rwa [Option.some.inj hfirst]
    have hdir : dir = root :=
      FileName.eq_of_join_eq (SearchPath.length_le_of_mem_parse hmem) habsolute hjoin
    rw [hdir] at hdirs
    exact congrArg SearchPath.mk hdirs
  · intro h
    rw [h]
    rfl

/-- A root that stands on the command line, without a source path and a manifest, is searched. -/
lemma searchesRoot_of_override {sources : SourceArguments} (hroot : sources.root = some root)
    (hpath : sources.sourcePath = none) (before : Options) :
    (sources.override false before).SearchesRoot := by
  simp [SearchesRoot, SourceArguments.override, hroot, hpath]

/-- **Which roots of manifests are searched**: without a source path, the directories that are read
of the root of a manifest are searched. They are the source root, and nothing else, exactly if the
root is not empty and has neither a semicolon nor white space around it; so they are if the manifest
names no root. A root that stands alone on the command line is searched always. -/
theorem searchesRoot_ofManifest (manifest : Manifest) (base : FileName)
    (sources : SourceArguments) (fs : Filesystem) (options : Options) :
    (manifest.sourcePath = none → ofManifest manifest base = .ok options →
      options.sourcePath = (SearchPath.parse (rootOf manifest).text).below base ∧
      (options.SearchesRoot ↔ SearchPath.IsEntry (rootOf manifest)) ∧
      (manifest.sourceRoot = none → options.SearchesRoot)) ∧
    (sources.manifest? fs = none → sources.root.isSome = true → sources.sourcePath = none →
      sources.options fs = .ok options → options.SearchesRoot) := by
  constructor
  · intro hpath h
    obtain ⟨hroot, hsearched⟩ := directories_of_ofManifest h
    rw [hpath, Option.getD_none] at hsearched
    have hiff : options.SearchesRoot ↔ SearchPath.IsEntry (rootOf manifest) := by
      rw [SearchesRoot, hroot, hsearched]
      exact below_parse_eq_singleton_iff
    refine ⟨hsearched, hiff, fun hnone => hiff.mpr ?_⟩
    rw [rootOf, hnone, Option.getD_none, ← SearchPath.parse_eq_singleton_iff]
    decide
  · intro hmanifest hroot hpath h
    obtain ⟨root, hroot⟩ := Option.isSome_iff_exists.mp hroot
    have hsearches := searchesRoot_of_override hroot hpath {}
    simp only [SourceArguments.options, hmanifest] at h
    cases hpackage : sources.package with
    | none =>
        simp only [hpackage] at h
        rw [← Except.ok.inj h]
        exact hsearches
    | some package =>
        simp only [hpackage] at h
        rw [withPackage_eq_ok h]
        exact hsearches

/-- The root `src` of a manifest is searched, and so is a directory `a;b` that stands on the command
line as the root. -/
theorem searchesRoot_ofManifest_src :
    let manifest : Manifest := { name := some "plant", sourceRoot := some "src" }
    let sources : SourceArguments := { root := some ⟨"a;b"⟩ }
    (∃ options, ofManifest manifest ⟨"base"⟩ = .ok options ∧ options.sourceRoot = ⟨"base/src"⟩ ∧
      options.SearchesRoot) ∧
    ∃ options, sources.options (.empty ["w"]) = .ok options ∧ options.SearchesRoot := by
  intro manifest sources
  have hsearched := searchesRoot_ofManifest manifest ⟨"base"⟩ sources (.empty ["w"])
  constructor
  · obtain ⟨options, hoptions⟩ : ∃ options, ofManifest manifest ⟨"base"⟩ = .ok options := ⟨_, rfl⟩
    have hentry : SearchPath.IsEntry (rootOf manifest) :=
      SearchPath.parse_eq_singleton_iff.mp (by decide)
    refine ⟨options, hoptions, ?_, ((hsearched options).1 rfl hoptions).2.1.mpr hentry⟩
    rw [(directories_of_ofManifest hoptions).1]
    decide
  · have hnone : sources.manifest? (.empty ["w"]) = none := by decide +kernel
    have hoptions : sources.options (.empty ["w"]) = .ok (sources.override false {}) := by
      simp only [SourceArguments.options, hnone]
      rfl
    exact ⟨_, hoptions, (hsearched _).2 hnone rfl rfl hoptions⟩

/-- A manifest whose source root is `a;b` has the modules named from there, and searched in `a` and
`b`. -/
theorem ofManifest_twoDirectories :
    ∃ options, ofManifest { sourceRoot := some "a;b" } ⟨"plant"⟩ = .ok options ∧
      options.sourceRoot = ⟨"plant/a;b"⟩ ∧
      options.sourcePath.dirs = [⟨"plant/a"⟩, ⟨"plant/b"⟩] ∧ ¬options.SearchesRoot := by
  refine ⟨_, rfl, by decide, by decide, ?_⟩
  rw [SearchesRoot]
  decide

end Options

end BriskModules
