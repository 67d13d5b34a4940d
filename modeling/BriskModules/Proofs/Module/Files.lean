import BriskModules.Module.Search
import BriskModules.Proofs.File.Name

/-!
The files of modules, and how they tell modules apart.

Where some segments of a module path are known, the others, if they are identifiers, can be
read off the location of the file that is found below a directory.

* `parts_relativeFile`: the parts of the name of a file of a module;
* `WellFormed.parts_relativeFile`: the same for a module whose segments are all identifiers;
* `parts_join_relativeFile`: the same below a directory;
* `segments_eq_of_follow`: modules found at one location below one directory are the same;
* `exists_of_findIn`: what is found lies below one of the directories.
-/

namespace BriskModules

namespace FileName

/-- A name that ends in parts that are not empty is absolute iff it starts with an empty
one. -/
lemma isAbsolute_of_parts {file : FileName} {front names : List String}
    (hparts : file.parts = front ++ names) (hne : names ≠ [])
    (hnames : ∀ name ∈ names, name ≠ "") :
    file.isAbsolute = decide (front.head? = some "") := by
  rw [Bool.eq_iff_iff, isAbsolute_eq_true_iff, hparts, decide_eq_true_eq]
  cases front with
  | nil =>
      cases names with
      | nil => exact absurd rfl hne
      | cons name more => simpa using fun h => absurd h (hnames name (by simp))
  | cons first rest =>
      have hrest : rest ++ names ≠ [] := by simp [hne]
      obtain ⟨part, more, hmore⟩ := List.exists_cons_of_ne_nil hrest
      simp [hmore]

/-- A name made of plain names is relative. -/
lemma isAbsolute_of_ofPart? {file : FileName}
    (h : ∀ name ∈ file.parts, Component.ofPart? name = some (.named name)) :
    file.isAbsolute = false := by
  have hne : file.parts ≠ [] := by simp [parts, Text.cut, Text.pieces_ne_nil]
  rw [isAbsolute_of_parts (List.nil_append _).symm hne
    fun name hname => ne_empty_of_ofPart? (h name hname)]
  rfl

/-- Plain names are the components of a name made of them. -/
lemma components_of_ofPart? {file : FileName}
    (h : ∀ name ∈ file.parts, Component.ofPart? name = some (.named name)) :
    file.components = file.parts.map .named := by
  rw [components, isAbsolute_of_ofPart? h]
  cases hparts : file.parts with
  | nil => rfl
  | cons first rest =>
      rw [hparts] at h
      have hfirst := h first List.mem_cons_self
      have hdot : first ≠ "." := by
        rintro rfl
        cases hfirst
      have hrest := filterMap_ofPart?_eq_map fun name hname => h name (.tail first hname)
      simp only [Bool.false_eq_true, ↓reduceIte, hdot, hfirst, hrest, Option.toList_some,
        List.singleton_append, List.map_cons]

/-- The parts in front of a name below a directory, if it starts with the given ones: an
absolute name escapes the directory. -/
def behind (directory : FileName) (front : List String) : List String :=
  if front.head? = some "" then front else directory.trail ++ front

/-- The parts of a name below a directory. -/
lemma parts_join_of_parts {directory file : FileName} {front names : List String}
    (hparts : file.parts = front ++ names) (hne : names ≠ [])
    (hnames : ∀ name ∈ names, name ≠ "") :
    (directory.join file).parts = directory.behind front ++ names := by
  have habsolute := isAbsolute_of_parts hparts hne hnames
  by_cases hfront : front.head? = some ""
  · rw [behind, if_pos hfront, join, if_pos (by simp [habsolute, hfront]), hparts]
  · rw [behind, if_neg hfront, parts_join (by simp [habsolute, hfront]), hparts,
      List.append_assoc]

end FileName

namespace ModulePath

/-- The name of the file in the directory of its module. -/
def baseName (path : ModulePath) (extension : String) : String :=
  path.file ++ "." ++ extension

/-- The files of modules have extensions that can stand in a file name. -/
structure IsExtension (extension : String) : Prop where
  nonempty : extension ≠ ""
  slash : '/' ∉ extension.toList

lemma isExtension_implementation : IsExtension implementationExtension :=
  ⟨by decide, by decide⟩

lemma isExtension_interface : IsExtension interfaceExtension :=
  ⟨by decide, by decide⟩

section

variable {path other : ModulePath} {front names others : List String} {extension : String}

/-- The name of a file of a module ends in the segments that are identifiers. -/
lemma parts_relativeFile (hsegments : path.segments = front ++ names ++ [path.file])
    (hnames : ∀ name ∈ names, isIdentifier name = true) (hfile : isIdentifier path.file = true)
    (hextension : IsExtension extension) :
    (path.relativeFile extension).parts =
      (FileName.ofSegments front).trail ++ (names ++ [path.baseName extension]) := by
  have hparts := FileName.parts_ofSegments front hnames hfile
  rw [relativeFile, hsegments,
    FileName.parts_withExtension hparts hfile hextension.nonempty hextension.slash,
    List.append_assoc, baseName]

/-- The last part of the name of a file is a plain name. -/
lemma ofPart?_baseName (hfile : isIdentifier path.file = true) (extension : String) :
    Component.ofPart? (path.baseName extension) =
      some (.named (path.baseName extension)) := by
  obtain ⟨c, rest, hc⟩ : ∃ c rest, path.file.toList = c :: rest := by
    refine List.exists_cons_of_ne_nil fun hnil => ?_
    exact ne_empty_of_isIdentifier hfile (String.toList_inj.mp (by simpa using hnil))
  have hdot : c ≠ '.' := by
    rintro rfl
    exact notMem_of_isIdentifier (c := '.') hfile (by decide) (by simp [hc])
  have hne : ∀ word : String, (word = "" ∨ word = "." ∨ word = "..") →
      path.baseName extension ≠ word := by
    intro word hword heq
    have hlist := congrArg String.toList heq
    rcases hword with rfl | rfl | rfl <;> simp [baseName, hc, hdot] at hlist
  simp [Component.ofPart?, hne "" (by simp), hne "." (by simp), hne ".." (by simp)]

/-- The segments that are identifiers are read as plain names, and so is the file. -/
lemma ofPart?_of_mem (extension : String)
    (hnames : ∀ name ∈ names, isIdentifier name = true)
    (hfile : isIdentifier path.file = true) :
    ∀ name ∈ names ++ [path.baseName extension],
      Component.ofPart? name = some (.named name) := by
  intro name hname
  rcases List.mem_append.mp hname with h | h
  · exact ofPart?_of_isIdentifier (hnames name h)
  · rw [List.mem_singleton.mp h]
    exact ofPart?_baseName hfile extension

lemma WellFormed.withoutPackage (hpath : path.WellFormed) : path.withoutPackage.WellFormed := by
  intro segment hsegment
  refine hpath segment ?_
  rw [segments, List.append_assoc]
  exact List.mem_append_right _ hsegment

/-- The parts of the name of a file of a well-formed module. -/
lemma WellFormed.parts_relativeFile (hpath : path.WellFormed)
    (hextension : IsExtension extension) : (path.relativeFile extension).parts =
      path.package.toList ++ path.dirs ++ [path.baseName extension] := by
  have hsegments : path.segments = [] ++ (path.package.toList ++ path.dirs) ++ [path.file] :=
    rfl
  exact ModulePath.parts_relativeFile hsegments
    (fun name hname => hpath name (List.mem_append_left _ hname))
    (hpath path.file (by simp [segments])) hextension

lemma WellFormed.ofPart?_of_mem_parts (hpath : path.WellFormed)
    (hextension : IsExtension extension) : ∀ name ∈ (path.relativeFile extension).parts,
      Component.ofPart? name = some (.named name) := by
  rw [hpath.parts_relativeFile hextension]
  exact ofPart?_of_mem extension (fun name hname => hpath name (List.mem_append_left _ hname))
    (hpath path.file (by simp [segments]))

/-- With one extension, the name of a file tells its stem. -/
lemma file_eq_of_baseName (h : path.baseName extension = other.baseName extension) :
    path.file = other.file := by
  have hlist := congrArg String.toList h
  simp only [baseName, String.toList_append] at hlist
  exact String.toList_inj.mp (List.append_cancel_right (List.append_cancel_right hlist))

/-- The parts of the name of a file of a module below a directory. -/
lemma parts_join_relativeFile (directory : FileName)
    (hsegments : path.segments = front ++ names ++ [path.file])
    (hnames : ∀ name ∈ names, isIdentifier name = true) (hfile : isIdentifier path.file = true)
    (hextension : IsExtension extension) :
    (directory.join (path.relativeFile extension)).parts =
      directory.behind (FileName.ofSegments front).trail ++
        (names ++ [path.baseName extension]) := by
  refine FileName.parts_join_of_parts (parts_relativeFile hsegments hnames hfile hextension)
    (by simp) fun name hname => ?_
  exact ne_empty_of_ofPart? (ofPart?_of_mem extension hnames hfile name hname)

/-- Two modules with the same first segments are the same if their other segments are
identifiers and their files are found at one location below one directory. -/
lemma segments_eq_of_follow {fs : Filesystem} {directory : FileName} {location : Location}
    (hsegments : path.segments = front ++ names ++ [path.file])
    (hnames : ∀ name ∈ names, isIdentifier name = true) (hfile : isIdentifier path.file = true)
    (hsegments' : other.segments = front ++ others ++ [other.file])
    (hothers : ∀ name ∈ others, isIdentifier name = true)
    (hfile' : isIdentifier other.file = true) (hextension : IsExtension extension)
    (h : fs.follow (directory.join (path.relativeFile extension)) = .ok location)
    (h' : fs.follow (directory.join (other.relativeFile extension)) = .ok location) :
    path.segments = other.segments := by
  have hparts := parts_join_relativeFile directory hsegments hnames hfile hextension
  have hparts' := parts_join_relativeFile directory hsegments' hothers hfile' hextension
  have hplain := ofPart?_of_mem extension hnames hfile
  have hplain' := ofPart?_of_mem extension hothers hfile'
  obtain ⟨start, hstart, hlocation⟩ := Filesystem.follow_eq_ok hparts hplain h
  obtain ⟨start', hstart', hlocation'⟩ := Filesystem.follow_eq_ok hparts' hplain' h'
  -- both names start from the same place, since both are absolute or both are not
  have horigin : fs.origin (directory.join (path.relativeFile extension)) =
      fs.origin (directory.join (other.relativeFile extension)) := by
    rw [Filesystem.origin, Filesystem.origin,
      FileName.isAbsolute_of_parts hparts (by simp)
        fun name hname => ne_empty_of_ofPart? (hplain name hname),
      FileName.isAbsolute_of_parts hparts' (by simp)
        fun name hname => ne_empty_of_ofPart? (hplain' name hname)]
  rw [horigin, hstart'] at hstart
  rw [hlocation, Except.ok.inj hstart] at hlocation'
  obtain ⟨hsame, hbase⟩ := List.append_inj' (List.append_cancel_left hlocation') rfl
  rw [hsegments, hsegments', hsame, file_eq_of_baseName (List.singleton_inj.mp hbase)]

end

end ModulePath

/-! ### Searching -/

namespace SearchPath

/-- What is found is a file below one of the directories, and may be opened. -/
lemma exists_of_findIn {fs : Filesystem} {relative file : FileName} {dirs : List FileName}
    (h : findIn fs relative dirs = .ok file) :
    ∃ dir ∈ dirs, file = dir.join relative ∧ fs.isReadable file = true := by
  induction dirs with
  | nil => simp [findIn] at h
  | cons dir more ih =>
      rw [findIn] at h
      by_cases hfile : fs.isReadable (dir.join relative) = true
      · simp only [hfile, ↓reduceIte, Except.ok.injEq] at h
        exact ⟨dir, by simp, h.symm, by rw [← h]; exact hfile⟩
      · simp only [hfile, Bool.false_eq_true, ↓reduceIte] at h
        cases hmore : findIn fs relative more with
        | error tried => simp [hmore] at h
        | ok found =>
            rw [hmore] at h
            obtain ⟨other, hother, hfound⟩ := ih (by rw [hmore]; exact h)
            exact ⟨other, List.mem_cons_of_mem dir hother, hfound⟩

end SearchPath

end BriskModules
