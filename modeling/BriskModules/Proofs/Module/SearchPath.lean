import BriskModules.Module.Search
import BriskModules.Proofs.Text.Blank
import BriskModules.Proofs.Text.Pieces

/-!
Search paths as texts.

A search path is read by cutting its text at the semicolons, and the directories that it is read
as are written again as they are. So what is read once is read the same way ever after.

* `SearchPath.IsEntry`: what a directory of a search path can look like;
* `isEntry_of_mem_parse`: all directories that are read look so;
* `parse_text_eq_iff`: exactly such directories are read back from what is written of them;
* `exists_isAbsolute_of_parse`: an absolute name is read as an absolute directory at least;
* `parse_append`: a semicolon between two texts puts their directories one after the other;
* `parse_normal` (**search paths are normal after one reading**).
-/

namespace BriskModules.SearchPath

variable {path : SearchPath} {text : String} {dir : FileName}

/-- A directory that can be a part of the text of a search path, and is all of that part. -/
structure IsEntry (dir : FileName) : Prop where
  nonempty : dir.text ≠ ""
  separator : separator ∉ dir.text.toList
  trimmed : Text.Trimmed dir.text.toList

/-- The directories that are read are the trimmed parts of which something is left. -/
lemma mem_parse_iff : dir ∈ (parse text).dirs ↔
    ∃ piece ∈ Text.pieces separator text.toList, Text.trim piece ≠ [] ∧
      dir.text.toList = Text.trim piece := by
  obtain ⟨name⟩ := dir
  simp only [parse, List.mem_map, List.mem_filter, decide_eq_true_eq, FileName.mk.injEq]
  constructor
  · rintro ⟨_, ⟨⟨piece, hpiece, rfl⟩, hne⟩, rfl⟩
    exact ⟨piece, hpiece, hne, String.toList_ofList⟩
  · rintro ⟨piece, hpiece, hne, hname⟩
    exact ⟨_, ⟨⟨piece, hpiece, rfl⟩, hne⟩, by rw [← hname, String.ofList_toList]⟩

/-- A directory that is read is not empty, and has neither semicolons nor white space around. -/
lemma isEntry_of_mem_parse (h : dir ∈ (parse text).dirs) : IsEntry dir := by
  obtain ⟨piece, hpiece, hne, hdir⟩ := mem_parse_iff.mp h
  refine ⟨fun hempty => hne ?_, fun hseparator => ?_, ?_⟩
  · rw [← hdir, hempty, String.toList_empty]
  · rw [hdir] at hseparator
    exact Text.notMem_of_mem_pieces hpiece ((Text.trim_infix piece).subset hseparator)
  · rw [hdir]
    exact Text.trimmed_trim piece

/-- What is written of directories that can be read is read as these directories. -/
lemma parse_text (h : ∀ dir ∈ path.dirs, IsEntry dir) : parse path.text = path := by
  obtain ⟨dirs⟩ := path
  by_cases hnil : dirs = []
  · subst hnil
    rfl
  have hpieces : Text.pieces separator (SearchPath.text ⟨dirs⟩).toList =
      dirs.map (·.text.toList) := by
    rw [SearchPath.text, Text.toList_joined, List.map_map]
    refine Text.pieces_intercalate (by simpa using hnil) fun part hpart => ?_
    obtain ⟨dir, hdir, rfl⟩ := List.mem_map.mp hpart
    exact (h dir hdir).separator
  have htrim : (dirs.map (·.text.toList)).map Text.trim = dirs.map (·.text.toList) := by
    rw [List.map_map]
    exact List.map_congr_left fun dir hdir => Text.trim_eq_self (h dir hdir).trimmed
  have hkept : (dirs.map (·.text.toList)).filter (· ≠ []) = dirs.map (·.text.toList) := by
    refine List.filter_eq_self.mpr fun part hpart => ?_
    obtain ⟨dir, hdir, rfl⟩ := List.mem_map.mp hpart
    simpa using (h dir hdir).nonempty
  rw [parse, hpieces, htrim, hkept, List.map_map]
  simp [Function.comp_def]

/-- Exactly the search paths of directories that can be read are read back. -/
lemma parse_text_eq_iff : parse path.text = path ↔ ∀ dir ∈ path.dirs, IsEntry dir := by
  refine ⟨fun h dir hdir => ?_, parse_text⟩
  rw [← h] at hdir
  exact isEntry_of_mem_parse hdir

/-- Exactly the texts of directories that can be read are read as one directory of that text. -/
lemma parse_eq_singleton_iff : parse dir.text = ⟨[dir]⟩ ↔ IsEntry dir := by
  have htext : SearchPath.text ⟨[dir]⟩ = dir.text := by simp [SearchPath.text, Text.joined]
  rw [← htext, parse_text_eq_iff]
  simp

/-- No directory that is read is longer than the text. -/
lemma length_le_of_mem_parse (h : dir ∈ (parse text).dirs) : dir.text.length ≤ text.length := by
  obtain ⟨piece, hpiece, -, hdir⟩ := mem_parse_iff.mp h
  calc dir.text.length = (Text.trim piece).length := by rw [← String.length_toList, hdir]
    _ ≤ piece.length := (Text.trim_infix piece).length_le
    _ ≤ text.toList.length := Text.length_le_of_mem_pieces hpiece
    _ = text.length := String.length_toList

/-- What is read of the text of an absolute name starts with an absolute directory. -/
lemma exists_isAbsolute_of_parse (h : dir.isAbsolute = true) :
    ∃ first, (parse dir.text).dirs.head? = some first ∧ first.isAbsolute = true := by
  simp only [FileName.isAbsolute, decide_eq_true_eq] at h
  obtain ⟨rest, hrest⟩ := List.head?_eq_some_iff.mp h
  obtain ⟨piece, more, hpieces⟩ : ∃ piece more,
      Text.pieces separator dir.text.toList = ('/' :: piece) :: more := by
    cases hparts : Text.pieces separator rest with
    | nil => exact absurd hparts (Text.pieces_ne_nil separator rest)
    | cons piece more =>
        exact ⟨piece, more, by rw [hrest, Text.pieces, if_neg (by decide), hparts]⟩
  have hhead : (Text.trim ('/' :: piece)).head? = some '/' := Text.head?_trim rfl (by decide)
  have hne : Text.trim ('/' :: piece) ≠ [] := by
    intro hnil
    simp [hnil] at hhead
  refine ⟨⟨String.ofList (Text.trim ('/' :: piece))⟩, ?_, by simp [FileName.isAbsolute, hhead]⟩
  rw [parse, hpieces, List.map_cons, List.filter_cons_of_pos (by simpa using hne), List.map_cons,
    List.head?_cons]

/-- A semicolon between two texts puts their directories one after the other. -/
lemma parse_append (front back : String) :
    (parse (front ++ String.singleton separator ++ back)).dirs =
      (parse front).dirs ++ (parse back).dirs := by
  have htext : (front ++ String.singleton separator ++ back).toList =
      front.toList ++ separator :: back.toList := by simp
  rw [parse, htext, Text.pieces_append_sep, List.map_append, List.filter_append, List.map_append]
  rfl

/-- **Search paths are normal after one reading**: every directory that is read is not empty, has
no semicolon and no white space around it, and exactly the search paths of such directories are
read back from what is written of them. So what is written of a search path that was read is read
as the same one, and written the same way again; and of two texts with a semicolon between them the
directories of the first are read and then those of the second. -/
theorem parse_normal (text front back : String) (path : SearchPath) :
    (∀ dir ∈ (parse text).dirs, IsEntry dir) ∧
    (parse path.text = path ↔ ∀ dir ∈ path.dirs, IsEntry dir) ∧
    parse (parse text).text = parse text ∧
    (parse (parse text).text).text = (parse text).text ∧
    (parse (front ++ String.singleton separator ++ back)).dirs =
      (parse front).dirs ++ (parse back).dirs := by
  have hentries : ∀ dir ∈ (parse text).dirs, IsEntry dir := fun _ => isEntry_of_mem_parse
  have hagain : parse (parse text).text = parse text := parse_text hentries
  exact ⟨hentries, parse_text_eq_iff, hagain, by rw [hagain], parse_append front back⟩

/-- Of `.;C:/somewhere;;lib ` the last directory has no blank, and the three directories are read
back from `.;C:/somewhere;lib`. -/
theorem parse_normal_somewhere :
    let read : SearchPath := ⟨[⟨"."⟩, ⟨"C:/somewhere"⟩, ⟨"lib"⟩]⟩
    ⟨"lib"⟩ ∈ (parse ".;C:/somewhere;;lib ").dirs ∧ IsEntry ⟨"lib"⟩ ∧
    parse ".;C:/somewhere;lib" = read := by
  intro read
  have hread : parse ".;C:/somewhere;;lib " = read := by decide
  have hlib : (⟨"lib"⟩ : FileName) ∈ (parse ".;C:/somewhere;;lib ").dirs := by simp [hread, read]
  obtain ⟨hentries, -, hagain, -⟩ := parse_normal ".;C:/somewhere;;lib " "" "" read
  rw [hread] at hagain
  exact ⟨hlib, hentries _ hlib, hagain⟩

end BriskModules.SearchPath
