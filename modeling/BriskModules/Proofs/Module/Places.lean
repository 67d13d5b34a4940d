import BriskModules.Module.Derivation
import BriskModules.Proofs.Module.Files

/-!
Where the files of well-formed modules lie.

Below a directory, the file of a module whose segments are identifiers lies where these
segments lead down from the place of the directory. So the place of the directory and the
location of the file tell the segments and the extension.

* `Filesystem.place?`: where names below a directory start;
* `eq_append_of_follow`: where the file of a well-formed module lies;
* `baseName_inj`: the name of a file tells its stem and its extension;
* `wellFormed_of_deriveModulePath`: the module path of a file is well-formed.
-/

namespace BriskModules

/-! ### Places of directories -/

namespace Filesystem

variable {fs : Filesystem}

variable (fs) in
/-- Where names below a directory start, if there is a directory: the empty name stands for
the current one. -/
def place? (directory : FileName) : Option Location :=
  (fs.follow (directory.join ⟨"."⟩)).toOption

/-- Names start at a directory if they can be followed. -/
lemma isDirectory_of_foldlM {location found : Location} {names : List String} (hne : names ≠ [])
    (h : names.foldlM fs.step location = .ok found) : fs.isDirectory location = true := by
  obtain ⟨name, more, rfl⟩ := List.exists_cons_of_ne_nil hne
  by_contra hdirectory
  simp [step, hdirectory, bind, Except.bind] at h

lemma foldlM_dot {location : Location} (h : fs.isDirectory location = true) :
    ["."].foldlM fs.step location = .ok location := by
  simp [step, h, Component.ofPart?, bind, Except.bind, pure, Except.pure]

/-- A name that can be followed has no zero in it. -/
lemma zero_notMem_of_follow {file : FileName} {location : Location}
    (h : fs.follow file = .ok location) : '\x00' ∉ file.text.toList := by
  rw [follow] at h
  split_ifs at h with hzero
  exact hzero

/-- The parts in front of a name that can be followed below a directory lead to the place of the
directory. -/
lemma place?_eq_some {directory file : FileName} {place location : Location}
    (hrelative : file.isAbsolute = false)
    (horigin : fs.origin (directory.join ⟨"."⟩) = fs.origin (directory.join file))
    (hfront : directory.trail.foldlM fs.step (fs.origin (directory.join file)) = .ok place)
    (hdirectory : fs.isDirectory place = true)
    (h : fs.follow (directory.join file) = .ok location) :
    fs.place? directory = some place := by
  have hdot : FileName.isAbsolute ⟨"."⟩ = false := by decide
  have hparts : (directory.join ⟨"."⟩).parts = directory.trail ++ ["."] :=
    FileName.parts_join hdot
  obtain ⟨front, htext⟩ := FileName.exists_text_join directory
  have hzero : '\x00' ∉ (directory.join ⟨"."⟩).text.toList := by
    have hjoined := zero_notMem_of_follow h
    rw [htext file hrelative, String.toList_append, List.mem_append, not_or] at hjoined
    rw [htext _ hdot, String.toList_append, List.mem_append, not_or]
    exact ⟨hjoined.1, by decide⟩
  have hempty : (directory.join ⟨"."⟩).text ≠ "" := by
    rw [htext _ hdot]
    intro hempty
    simpa using congrArg String.toList hempty
  rw [place?, follow, if_neg hzero, if_neg hempty, hparts, horigin, List.foldlM_append, hfront]
  change (["."].foldlM fs.step place).toOption = some place
  rw [foldlM_dot hdirectory]
  rfl

/-- Plain names that can be followed below a directory lead down from the place of the
directory. -/
lemma eq_append_of_follow_join {directory file : FileName} {location : Location}
    (hnames : ∀ name ∈ file.parts, Component.ofPart? name = some (.named name))
    (h : fs.follow (directory.join file) = .ok location) :
    ∃ place, fs.place? directory = some place ∧ location = place ++ file.parts := by
  have hne : file.parts ≠ [] := by simp [FileName.parts, Text.cut, Text.pieces_ne_nil]
  have hnonempty : ∀ name ∈ file.parts, name ≠ "" :=
    fun name hname => ne_empty_of_ofPart? (hnames name hname)
  have hrelative := FileName.isAbsolute_of_ofPart? hnames
  have hparts : (directory.join file).parts = directory.trail ++ file.parts :=
    FileName.parts_join hrelative
  -- the name starts where the name of the directory itself does
  have horigin : fs.origin (directory.join ⟨"."⟩) = fs.origin (directory.join file) := by
    have hdot : (directory.join ⟨"."⟩).parts = directory.trail ++ ["."] :=
      FileName.parts_join (by decide)
    rw [origin, origin, FileName.isAbsolute_of_parts hdot (by simp) (by simp),
      FileName.isAbsolute_of_parts hparts hne hnonempty]
  obtain ⟨place, hfront, hrest⟩ := exists_foldlM_of_follow hparts h
  exact ⟨place, place?_eq_some hrelative horigin hfront (isDirectory_of_foldlM hne hrest) h,
    foldlM_step_eq_ok hnames hrest⟩

end Filesystem

/-! ### Files of modules -/

namespace ModulePath

variable {path : ModulePath} {extension : String}

/-- The location of the file of a well-formed module below a directory. -/
lemma eq_append_of_follow {fs : Filesystem} {directory : FileName} {location : Location}
    (hpath : path.WellFormed) (hextension : IsExtension extension)
    (h : fs.follow (directory.join (path.relativeFile extension)) = .ok location) :
    ∃ place, fs.place? directory = some place ∧
      location = place ++ (path.package.toList ++ path.dirs ++ [path.baseName extension]) := by
  rw [← hpath.parts_relativeFile hextension]
  exact Filesystem.eq_append_of_follow_join (hpath.ofPart?_of_mem_parts hextension) h

/-- A stem that is an identifier is cut off at the dot behind it. -/
lemma splitExtension_baseName (hfile : isIdentifier path.file = true)
    (hextension : '.' ∉ extension.toList) :
    splitExtension (path.baseName extension) = (path.file, some extension) := by
  refine FileName.splitExtension_append (ne_empty_of_isIdentifier hfile) hextension fun hup => ?_
  have hdots := ofPart?_baseName hfile extension
  rw [baseName, hup] at hdots
  cases hdots

/-- The name of a file tells its stem and its extension. -/
lemma baseName_inj {other : ModulePath} {extension' : String}
    (hfile : isIdentifier path.file = true) (hfile' : isIdentifier other.file = true)
    (hextension : '.' ∉ extension.toList) (hextension' : '.' ∉ extension'.toList)
    (h : path.baseName extension = other.baseName extension') :
    path.file = other.file ∧ extension = extension' := by
  have hsplit := congrArg splitExtension h
  rw [splitExtension_baseName hfile hextension,
    splitExtension_baseName hfile' hextension'] at hsplit
  obtain ⟨hstem, hlast⟩ := Prod.mk.inj hsplit
  exact ⟨hstem, Option.some.inj hlast⟩

/-! ### Well-formed modules -/

/-- The module path of a file is well-formed and in the given package. -/
lemma wellFormed_of_deriveModulePath {fs : Filesystem} {file root : FileName}
    {package : Option String} (h : deriveModulePath fs file root package = .ok path) :
    path.WellFormed ∧ path.package = package := by
  rw [deriveModulePath] at h
  cases hway : relativeToRoot fs file root with
  | none => simp [hway] at h
  | some way =>
      cases hstem : stemOfWay? way with
      | none => simp [hway, hstem] at h
      | some stem =>
          simp only [hway, hstem] at h
          split at h
          · next hfit =>
              obtain rfl := Except.ok.inj h
              refine ⟨fun segment hsegment => ?_, rfl⟩
              simpa using List.filter_eq_nil_iff.mp hfit segment hsegment
          · simp at h

end ModulePath

end BriskModules
