import BriskModules.Proofs.Module.Spelling

/-!
Module paths of files, and files of module paths.

The module path of a file is read off its name or its location, and the name of an implementation is
put together from a module path. The one undoes the other: an implementation below the source root
has the module path back that it is named for, and where a file has a module path, the name of the
implementation leads to the same place, however the root and the file are spelled.

* `FileName.extension?`: the extension of a file;
* `written_or_located_of_relativeToRoot`: the two ways from the root to a file;
* `relativeToRoot_join`: the way from the root to a name below it;
* `exists_name_of_deriveModulePath`: the names of which a module path is made;
* `ModulePath.steps_join_implementationFile`: the steps of an implementation below a directory;
* `deriveModulePath_join_implementationFile`: its module path;
* `follow_join_implementationFile`: where an implementation is that has a module path.
-/

namespace BriskModules

/-! ### Names of files -/

namespace FileName

/-- The extension of the file itself. -/
def extension? (file : FileName) : Option String :=
  file.lastName?.bind fun name => (splitExtension name).2

/-- The name of the file itself is the last part with a meaning. -/
lemma exists_parts_of_lastName? {file : FileName} {name : String}
    (h : file.lastName? = some name) : ∃ before after, file.parts = before ++ name :: after ∧
      Component.ofPart? name = some (.named name) ∧
        ∀ part ∈ after, Component.ofPart? part = none := by
  obtain ⟨⟨before, last⟩, hsplit, rfl⟩ := Option.map_eq_some_iff.mp h
  rw [splitLast?] at hsplit
  have hblank := @List.all_takeWhile _ (fun part => part = "" || part = ".") file.parts.reverse
  have hmeaning := List.head?_dropWhile_not (fun part => part = "" || part = ".") file.parts.reverse
  have hparts := List.takeWhile_append_dropWhile
    (p := fun part => part = "" || part = ".") (l := file.parts.reverse)
  generalize file.parts.reverse.takeWhile (fun part => part = "" || part = ".") = after
    at hblank hparts
  split at hsplit
  · next found rest hfound =>
      split_ifs at hsplit with hup
      obtain ⟨-, rfl⟩ := Prod.mk.inj (Option.some.inj hsplit)
      rw [hfound] at hmeaning hparts
      refine ⟨rest.reverse, after.reverse, ?_, ?_, fun part hpart => ?_⟩
      · rw [← List.reverse_reverse file.parts, ← hparts, List.reverse_append, List.reverse_cons,
          List.append_assoc, List.singleton_append]
      · have hdots : ¬(found = "" ∨ found = ".") := by simpa using hmeaning
        rw [Component.ofPart?, if_neg hdots, if_neg hup]
      · have hdots := List.all_eq_true.mp hblank part (List.mem_reverse.mp hpart)
        exact if_pos (by simpa using hdots)
  · cases hsplit

/-- The name of the file itself is its last step. -/
lemma exists_steps_of_lastName? {file : FileName} {name : String}
    (h : file.lastName? = some name) : ∃ front, file.steps = front ++ [.named name] := by
  obtain ⟨before, after, hparts, hname, hblank⟩ := exists_parts_of_lastName? h
  refine ⟨(if file.isAbsolute then [.root] else []) ++ before.filterMap Component.ofPart?, ?_⟩
  rw [steps_eq, hparts, List.filterMap_append, List.filterMap_cons_some hname,
    List.filterMap_eq_nil_iff.mpr hblank, List.append_assoc]

end FileName

/-! ### The names behind a module path -/

section

variable {fs : Filesystem} {file root : FileName} {path : ModulePath} {package : Option String}
  {location : Location} {names : List String}

lemma map_named_injective : Function.Injective (List.map Component.named) :=
  List.map_injective_iff.mpr fun _ _ => Component.named.inj

/-- The way from the root to a file is read off the names, or it has the names between the two
locations. -/
lemma written_or_located_of_relativeToRoot {way : List Component}
    (h : relativeToRoot fs file root = some way) :
    writtenWay? file root = some way ∨ ∃ top names, fs.follow root = .ok top ∧
      fs.follow file = .ok (top ++ names) ∧ way = names.map .named := by
  rw [relativeToRoot] at h
  split at h
  · next written hwritten => exact .inl (h ▸ hwritten)
  · rw [locatedWay?] at h
    split at h
    · next found top hfile hroot =>
        split_ifs at h with hprefix
        obtain ⟨names, rfl⟩ := List.isPrefixOf_iff_prefix.mp hprefix
        rw [List.drop_left] at h
        exact .inr ⟨top, names, hroot, hfile, (Option.some.inj h).symm⟩
    · cases h

/-- The way from the root to a name below it is the name itself. -/
lemma relativeToRoot_join (h : file.components = names.map .named) (fs : Filesystem)
    (root : FileName) : relativeToRoot fs (root.join file) root = some (names.map .named) := by
  have hsteps : (root.join file).steps = root.steps ++ names.map .named := by
    rw [FileName.steps_join (FileName.isAbsolute_of_components h), FileName.steps_of_components h]
  rw [relativeToRoot, writtenWay?_eq_some_iff.mpr ⟨hsteps, by simp⟩]

/-- A source file at the end of some names has all of them in its module path, unless some of them
are unfit. -/
lemma deriveModulePath_of_named {dirs : List String} {name stem : String}
    (hway : relativeToRoot fs file root = some ((dirs ++ [name]).map .named))
    (hstem : sourceStem? name = some stem) :
    deriveModulePath fs file root package =
      if ModulePath.WellFormed ⟨package, dirs, stem⟩ then .ok ⟨package, dirs, stem⟩
      else .error (.invalidNames
        ((package.toList ++ dirs ++ [stem]).filter fun segment => ¬isIdentifier segment)) := by
  have hdirs : ((dirs ++ [name]).map Component.named).dropLast.map Component.text = dirs := by
    simp [Function.comp_def, Component.text]
  rw [deriveModulePath_of_way hway ((stemOfWay?_map_named dirs name).trans hstem), hdirs]

/-- A file with a module path is reached from the root through the directories of the path, and is
named like a source file. -/
lemma exists_name_of_deriveModulePath (h : deriveModulePath fs file root package = .ok path) :
    ∃ name, relativeToRoot fs file root = some ((path.dirs ++ [name]).map .named) ∧
      sourceStem? name = some path.file := by
  cases hway : relativeToRoot fs file root with
  | none => simp [deriveModulePath, hway] at h
  | some way =>
      -- otherwise the slash of an absolute name would be a directory of the path
      have hspelling : root.steps = [] → file.isAbsolute = true → .up ∈ file.steps := by
        intro hroot habsolute
        by_contra hup
        rcases deriveModulePath_of_steps_eq_nil hroot habsolute hup fs package with
          hrefused | ⟨names, hrefused, -⟩ <;> simp [hrefused] at h
      have hnamed : ∃ names : List String, way = names.map .named := by
        rcases written_or_located_of_relativeToRoot hway with hwritten | ⟨_, names, -, -, hnames⟩
        · exact exists_eq_map_named_of_writtenWay? hspelling hwritten
        · exact ⟨names, hnames⟩
      obtain ⟨names, rfl⟩ := hnamed
      rcases List.eq_nil_or_concat' names with rfl | ⟨dirs, name, rfl⟩
      · simp [deriveModulePath, hway, stemOfWay?] at h
      · cases hstem : sourceStem? name with
        | none => simp only [deriveModulePath, hway, stemOfWay?_map_named, hstem, reduceCtorEq] at h
        | some stem =>
            rw [deriveModulePath_of_named hway hstem] at h
            split_ifs at h
            obtain rfl := Except.ok.inj h
            exact ⟨name, rfl, hstem⟩

/-- In a tree, the names from the root to a file lead from the root to where the file is. -/
lemma walk_of_relativeToRoot (htree : fs.IsTree)
    (hnames : ∀ name ∈ names, Component.ofPart? name = some (.named name))
    (hfile : fs.follow file = .ok location) (hentry : (fs.entry? location).isSome = true)
    (hway : relativeToRoot fs file root = some (names.map .named)) :
    fs.walk (root.steps ++ names.map .named) = .ok location ∧
      ∀ component ∈ root.steps, '\x00' ∉ component.text.toList := by
  rcases written_or_located_of_relativeToRoot hway with
    hwritten | ⟨top, between, hroot, hbelow, hbetween⟩
  · obtain ⟨hsteps, -⟩ := writtenWay?_eq_some_iff.mp hwritten
    have hzero := FileName.zero_notMem_text_iff.mp (Filesystem.zero_notMem_of_follow hfile)
    rw [hsteps] at hzero
    rw [← hsteps]
    exact ⟨Filesystem.walk_of_follow hfile,
      fun component hcomponent => hzero component (List.mem_append_left _ hcomponent)⟩
  · -- only here the names are not steps of the file, and a tree is needed to go down along them
    obtain rfl := map_named_injective hbetween
    obtain rfl := Except.ok.inj (hfile.symm.trans hbelow)
    refine ⟨?_, FileName.zero_notMem_text_iff.mp (Filesystem.zero_notMem_of_follow hroot)⟩
    have htop : root.steps.foldlM fs.enter fs.current = .ok top := Filesystem.walk_of_follow hroot
    rw [Filesystem.walk, List.foldlM_append, htop]
    exact htree.foldlM_enter hnames hentry

/-- The last name from the root to a file is that of the file itself. -/
lemma eq_of_lastName? {dirs : List String} {name last : String}
    (hway : relativeToRoot fs file root = some ((dirs ++ [name]).map .named))
    (hlast : file.lastName? = some last) : last = name := by
  obtain ⟨front, hsteps⟩ := FileName.exists_steps_of_lastName? hlast
  rcases written_or_located_of_relativeToRoot hway with
    hwritten | ⟨top, between, -, hbelow, hbetween⟩
  · obtain ⟨hroot, -⟩ := writtenWay?_eq_some_iff.mp hwritten
    rw [hsteps, List.map_append, ← List.append_assoc] at hroot
    exact Component.named.inj (List.singleton_inj.mp (List.append_inj' hroot rfl).2)
  · obtain rfl := map_named_injective hbetween
    have hlocation := Filesystem.location_of_follow hbelow
    rw [hsteps, List.foldl_append, ← List.append_assoc] at hlocation
    exact (List.singleton_inj.mp (List.append_inj' hlocation rfl).2).symm

/-! ### The implementation below the source root -/

namespace ModulePath

lemma parts_implementationFile (hpath : path.WellFormed) :
    path.implementationFile.parts = path.dirs ++ [path.baseName implementationExtension] :=
  hpath.withoutPackage.parts_relativeFile isExtension_implementation

lemma ofPart?_of_mem_implementationFile (hpath : path.WellFormed) :
    ∀ name ∈ path.implementationFile.parts, Component.ofPart? name = some (.named name) :=
  hpath.withoutPackage.ofPart?_of_mem_parts isExtension_implementation

lemma zero_notMem_implementationFile (hpath : path.WellFormed) :
    ∀ name ∈ path.dirs ++ [path.baseName implementationExtension], '\x00' ∉ name.toList := by
  have hidentifier : ∀ segment ∈ path.segments, '\x00' ∉ segment.toList :=
    fun segment hsegment => notMem_of_isIdentifier (hpath segment hsegment) (by decide)
  intro name hname
  rcases List.mem_append.mp hname with hdir | hbase
  · exact hidentifier name (by simp [segments, hdir])
  · rw [List.mem_singleton.mp hbase, baseName, String.toList_append, String.toList_append]
    simpa [implementationExtension] using hidentifier path.file (by simp [segments])

/-- The parts of the implementation below a directory. -/
lemma parts_join_implementationFile (hpath : path.WellFormed) (root : FileName) :
    (root.join path.implementationFile).parts =
      root.trail ++ path.dirs ++ [path.baseName implementationExtension] := by
  have hrelative := FileName.isAbsolute_of_ofPart? (ofPart?_of_mem_implementationFile hpath)
  rw [FileName.parts_join hrelative, parts_implementationFile hpath, List.append_assoc]

/-- The steps of the implementation below a directory. -/
lemma steps_join_implementationFile (hpath : path.WellFormed) (root : FileName) :
    (root.join path.implementationFile).steps =
      root.steps ++ (path.dirs ++ [path.baseName implementationExtension]).map .named := by
  have hplain := ofPart?_of_mem_implementationFile hpath
  rw [FileName.steps_join (FileName.isAbsolute_of_ofPart? hplain),
    FileName.steps_of_components (FileName.components_of_ofPart? hplain),
    parts_implementationFile hpath]

end ModulePath

/-- The name of the implementation below a source root has the module path back. -/
lemma deriveModulePath_join_implementationFile (hpath : path.WellFormed) (fs : Filesystem)
    (root : FileName) :
    deriveModulePath fs (root.join path.implementationFile) root path.package = .ok path := by
  have hplain := path.ofPart?_of_mem_implementationFile hpath
  have hway := relativeToRoot_join (FileName.components_of_ofPart? hplain) fs root
  rw [path.parts_implementationFile hpath] at hway
  have hsplit := ModulePath.splitExtension_baseName
    (hpath path.file (by simp [ModulePath.segments]))
    (show '.' ∉ implementationExtension.toList by decide)
  rw [deriveModulePath_of_named hway (sourceStem?_eq_some_iff.mpr ⟨_, hsplit, .inl rfl⟩),
    if_pos hpath]

/-- In a tree, an implementation is where its module path leads from the source root. -/
lemma follow_join_implementationFile (htree : fs.IsTree) (hfile : fs.follow file = .ok location)
    (hentry : (fs.entry? location).isSome = true)
    (hextension : file.extension? = some implementationExtension)
    (h : deriveModulePath fs file root package = .ok path) :
    fs.follow (root.join path.implementationFile) = .ok location := by
  obtain ⟨hpath, -⟩ := ModulePath.wellFormed_of_deriveModulePath h
  obtain ⟨name, hway, hstem⟩ := exists_name_of_deriveModulePath h
  obtain ⟨last, hlast, hsplit⟩ := Option.bind_eq_some_iff.mp hextension
  obtain rfl := eq_of_lastName? hway hlast
  obtain ⟨extension, hname, -⟩ := sourceStem?_eq_some_iff.mp hstem
  obtain rfl : last = path.baseName implementationExtension := by
    obtain ⟨-, -, -, hlast⟩ := FileName.splitExtension_eq_some_iff.mp hname
    rw [hname] at hsplit
    rw [hlast, Option.some.inj hsplit]
    rfl
  have hplain := path.ofPart?_of_mem_implementationFile hpath
  rw [path.parts_implementationFile hpath] at hplain
  obtain ⟨hwalk, hzero⟩ := walk_of_relativeToRoot htree hplain hfile hentry hway
  have hsteps := path.steps_join_implementationFile hpath root
  refine Filesystem.follow_of_walk (path.parts_join_implementationFile hpath root)
    (hplain _ (by simp)) ?_ (hsteps ▸ hwalk)
  rw [hsteps]
  intro component hcomponent
  rcases List.mem_append.mp hcomponent with hroot | hnamed
  · exact hzero component hroot
  · obtain ⟨name, hname, rfl⟩ := List.mem_map.mp hnamed
    exact path.zero_notMem_implementationFile hpath name hname

end

end BriskModules
