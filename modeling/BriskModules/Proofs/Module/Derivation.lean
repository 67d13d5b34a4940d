import BriskModules.Module.Derivation
import BriskModules.Proofs.File.Name

/-!
The module path of a file comes from where the file is, not from how its name is spelled.

Following a file name is a walk along its steps, and the location it ends at can be computed
from them. The way from the root to a file that is read off two names is therefore the way
between their locations, with one exception: a root that is spelled without a step, as the
current directory is, is in front of every name, also of an absolute one. The slash at the start
of such a name is then taken for a directory.

* `steps_eq`: the steps of a name are those of its parts;
* `location_of_follow`: a name leads where its steps lead;
* `relativeToRoot_eq`: the way from the root to a file by their locations;
* `deriveModulePath_of_follow`: the module path of a file by its location;
* `deriveModulePath_of_steps_eq_nil`: what becomes of absolute names in the exceptional case.
-/

namespace BriskModules

/-! ### Steps of file names -/

namespace FileName

/-- Behind the first part a dot is no component. -/
lemma filter_filterMap_ofPart? (parts : List String) :
    (parts.filterMap Component.ofPart?).filter (· ≠ .here) =
      parts.filterMap Component.ofPart? := by
  refine List.filter_eq_self.mpr fun component hmem => ?_
  obtain ⟨part, -, hpart⟩ := List.mem_filterMap.mp hmem
  rcases eq_up_or_named_of_ofPart? hpart with rfl | ⟨name, rfl⟩ <;> rfl

/-- The steps of a name are those of its parts, behind the slash at its start if there is
one. -/
lemma steps_eq (file : FileName) :
    file.steps = (if file.isAbsolute then [.root] else []) ++
      file.parts.filterMap Component.ofPart? := by
  rw [steps, components]
  cases hparts : file.parts with
  | nil => exact absurd hparts (by simp [parts, Text.cut, Text.pieces_ne_nil])
  | cons first rest =>
      simp only [List.filter_append, filter_filterMap_ofPart?]
      by_cases habsolute : file.isAbsolute = true
      · obtain ⟨part, more, hmore⟩ := isAbsolute_eq_true_iff.mp habsolute
        obtain rfl : first = "" := by
          rw [hparts] at hmore
          exact (List.cons.inj hmore).1
        simp [habsolute, Component.ofPart?]
      · by_cases hdot : first = "."
        · simp [habsolute, hdot, Component.ofPart?]
        · have hfirst := filter_filterMap_ofPart? [first]
          cases hcomponent : Component.ofPart? first with
          | none => simp [habsolute, hdot, hcomponent]
          | some component =>
              rw [List.filterMap_cons_some hcomponent, List.filterMap_nil] at hfirst
              simp only [habsolute, hdot, Bool.false_eq_true, ↓reduceIte, Option.toList_some,
                hfirst, List.filterMap_cons_some hcomponent, List.singleton_append,
                List.nil_append]

/-- A name whose components are all names is relative. -/
lemma isAbsolute_of_components {file : FileName} {names : List String}
    (h : file.components = names.map .named) : file.isAbsolute = false := by
  by_contra habsolute
  rw [Bool.not_eq_false] at habsolute
  have hroot : Component.root ∈ file.components := by
    rw [components]
    cases hparts : file.parts with
    | nil => exact absurd hparts (by simp [parts, Text.cut, Text.pieces_ne_nil])
    | cons first rest => simp [habsolute]
  simp [h] at hroot

/-- Names are steps. -/
lemma steps_of_components {file : FileName} {names : List String}
    (h : file.components = names.map .named) : file.steps = names.map .named := by
  rw [steps, h]
  exact List.filter_eq_self.mpr (by simp)

/-- A step that is no name leads up, or it is the slash at the start of an absolute name. -/
lemma mem_steps {file : FileName} {component : Component} (h : component ∈ file.steps) :
    component = .root ∧ file.isAbsolute = true ∨ component = .up ∨
      ∃ name, component = .named name := by
  rw [steps_eq, List.mem_append] at h
  rcases h with hroot | hpart
  · split_ifs at hroot with habsolute
    · exact .inl ⟨List.mem_singleton.mp hroot, habsolute⟩
    · simp at hroot
  · obtain ⟨part, -, hpart⟩ := List.mem_filterMap.mp hpart
    exact .inr (eq_up_or_named_of_ofPart? hpart)

/-- The slash is the first step or none. -/
lemma root_notMem_tail_steps (file : FileName) : .root ∉ file.steps.tail := by
  have hparts : Component.root ∉ file.parts.filterMap Component.ofPart? := by
    intro hmem
    obtain ⟨part, -, hpart⟩ := List.mem_filterMap.mp hmem
    rcases eq_up_or_named_of_ofPart? hpart with hup | ⟨name, hname⟩ <;> contradiction
  rw [steps_eq]
  split_ifs
  · exact hparts
  · exact fun hmem => hparts (List.mem_of_mem_tail hmem)

end FileName

namespace Filesystem

/-- A file name that can be followed leads where its steps lead from the current directory. -/
lemma location_of_follow {fs : Filesystem} {file : FileName} {location : Location}
    (h : fs.follow file = .ok location) :
    location = file.steps.foldl Component.move fs.current := by
  rw [follow] at h
  split_ifs at h
  rw [eq_foldl_move_of_foldlM_step h, origin, FileName.steps_eq, List.foldl_append]
  split_ifs <;> rfl

end Filesystem

/-! ### The way from the root to a file -/

/-- A way can be read off two names if it continues the steps of the root to those of the
file, and never leads up. -/
lemma writtenWay?_eq_some_iff {file root : FileName} {way : List Component} :
    writtenWay? file root = some way ↔ file.steps = root.steps ++ way ∧ .up ∉ way := by
  simp only [writtenWay?]
  constructor
  · intro h
    split_ifs at h with hprefix hup
    obtain ⟨rest, hrest⟩ := List.isPrefixOf_iff_prefix.mp hprefix
    rw [← hrest, List.drop_left] at h hup
    obtain rfl := Option.some.inj h
    exact ⟨hrest.symm, hup⟩
  · rintro ⟨hsteps, hup⟩
    rw [if_pos (List.isPrefixOf_iff_prefix.mpr ⟨way, hsteps.symm⟩), hsteps, List.drop_left,
      if_neg hup]

/-- A way that can be read off two names has only names, unless the root is spelled without a
step and the file as an absolute name. -/
lemma exists_eq_map_named_of_writtenWay? {file root : FileName} {way : List Component}
    (hspelling : root.steps = [] → file.isAbsolute = true → .up ∈ file.steps)
    (h : writtenWay? file root = some way) : ∃ names : List String, way = names.map .named := by
  obtain ⟨hsteps, hup⟩ := writtenWay?_eq_some_iff.mp h
  have hnamed : ∀ component ∈ way, ∃ name, Component.named name = component := by
    intro component hmem
    have hstep : component ∈ file.steps := by
      rw [hsteps]
      exact List.mem_append_right _ hmem
    rcases FileName.mem_steps hstep with ⟨rfl, habsolute⟩ | rfl | ⟨name, rfl⟩
    · cases hroot : root.steps with
      | nil =>
          -- the steps of the file are the way, which does not lead up
          rw [hroot, List.nil_append] at hsteps
          rw [← hsteps] at hup
          exact absurd (hspelling hroot habsolute) hup
      | cons first more =>
          have htail := file.root_notMem_tail_steps
          rw [hsteps, hroot] at htail
          exact absurd (List.mem_append_right _ hmem) htail
    · exact absurd hmem hup
    · exact ⟨name, rfl⟩
  have hrange : way ∈ Set.range (List.map Component.named) := by
    rw [Set.range_list_map]
    exact hnamed
  obtain ⟨names, rfl⟩ := hrange
  exact ⟨names, rfl⟩

section

variable {fs : Filesystem} {file root : FileName} {location top : Location}

/-- The way from the root to a file is the one between their locations, however they are
spelled. -/
lemma relativeToRoot_eq (hfile : fs.follow file = .ok location)
    (hroot : fs.follow root = .ok top)
    (hspelling : root.steps = [] → file.isAbsolute = true → .up ∈ file.steps) :
    relativeToRoot fs file root =
      if top.isPrefixOf location then some ((location.drop top.length).map .named) else none := by
  rw [relativeToRoot]
  cases hwritten : writtenWay? file root with
  | none => simp only [locatedWay?, hfile, hroot]
  | some way =>
      obtain ⟨names, rfl⟩ := exists_eq_map_named_of_writtenWay? hspelling hwritten
      obtain ⟨hsteps, -⟩ := writtenWay?_eq_some_iff.mp hwritten
      obtain rfl : location = top ++ names := by
        rw [Filesystem.location_of_follow hfile, hsteps, List.foldl_append,
          ← Filesystem.location_of_follow hroot, foldl_move_named]
      rw [if_pos (List.isPrefixOf_iff_prefix.mpr (List.prefix_append top names)), List.drop_left]

/-! ### The module path of a file -/

/-- The stem at the end of a way down is that of the last name. -/
lemma stemOfWay?_map_named (dirs : List String) (name : String) :
    stemOfWay? ((dirs ++ [name]).map .named) = sourceStem? name := by
  rw [stemOfWay?, List.map_append, List.map_singleton, List.getLast?_concat]

/-- A source file is named by a stem and one of the extensions. -/
lemma sourceStem?_eq_some_iff {name stem : String} :
    sourceStem? name = some stem ↔ ∃ extension, splitExtension name = (stem, some extension) ∧
      (extension = implementationExtension ∨ extension = interfaceExtension) := by
  rw [sourceStem?]
  split
  · next found extension hsplit =>
      simp only [hsplit, Prod.mk.injEq, Option.some.injEq, Option.ite_none_right_eq_some]
      constructor
      · rintro ⟨hextension, rfl⟩
        exact ⟨extension, ⟨rfl, rfl⟩, hextension⟩
      · rintro ⟨_, ⟨rfl, rfl⟩, hextension⟩
        exact ⟨hextension, rfl⟩
  · next hnone =>
      simp only [reduceCtorEq, false_iff, not_exists, not_and]
      exact fun extension hsplit => absurd hsplit (hnone stem extension)

/-- A file at the end of a way has the steps of the way in its module path, unless some of
them are unfit. -/
lemma deriveModulePath_of_way {way : List Component} {stem : String}
    (hway : relativeToRoot fs file root = some way) (hstem : stemOfWay? way = some stem)
    (package : Option String) :
    deriveModulePath fs file root package =
      if ModulePath.WellFormed ⟨package, way.dropLast.map Component.text, stem⟩ then
        .ok ⟨package, way.dropLast.map Component.text, stem⟩
      else .error (.invalidNames
        ((package.toList ++ way.dropLast.map Component.text ++ [stem]).filter
          fun segment => ¬isIdentifier segment)) := by
  simp only [deriveModulePath, hway, hstem]
  have hunfit : ModulePath.WellFormed ⟨package, way.dropLast.map Component.text, stem⟩ ↔
      (ModulePath.segments ⟨package, way.dropLast.map Component.text, stem⟩).filter
        (fun segment => ¬isIdentifier segment) = [] := by
    simp [List.filter_eq_nil_iff, ModulePath.WellFormed]
  split
  · next hnil => rw [if_pos (hunfit.mpr hnil)]
  · next hsome =>
      rw [if_neg fun hfit => hsome (hunfit.mp hfit)]
      rfl

/-- **The module path of a file comes from where the file is.** In a file system, which has no
links, whatever spellings lead to a file and to the root, a file below the root that is named like a
source file has a module path of the names between them, or all of these names that are unfit are
told; a file that is not below the root is refused. The spellings must not be an absolute name that
never leads up and a root without a step. -/
theorem deriveModulePath_of_follow {content : Content} (hfile : fs.follow file = .ok location)
    (hcontent : fs.entry? location = some (.file content)) (hroot : fs.follow root = .ok top)
    (hdirectory : fs.isDirectory top = true)
    (hspelling : root.steps = [] → file.isAbsolute = true → .up ∈ file.steps)
    (package : Option String) :
    (top <+: location → ∃ dirs name, location = top ++ dirs ++ [name] ∧
      (∀ stem extension, splitExtension name = (stem, some extension) →
        extension = implementationExtension ∨ extension = interfaceExtension →
          deriveModulePath fs file root package =
            if ModulePath.WellFormed ⟨package, dirs, stem⟩ then .ok ⟨package, dirs, stem⟩
            else .error (.invalidNames
              ((package.toList ++ dirs ++ [stem]).filter fun segment => ¬isIdentifier segment))) ∧
      (sourceStem? name = none →
        deriveModulePath fs file root package = .error (.notSource file))) ∧
    (¬top <+: location →
      deriveModulePath fs file root package = .error (.outsideRoot file root)) := by
  have hrelative := relativeToRoot_eq hfile hroot hspelling
  constructor
  · rintro ⟨names, rfl⟩
    rw [if_pos (List.isPrefixOf_iff_prefix.mpr (List.prefix_append top names)),
      List.drop_left] at hrelative
    -- a file is not at the location of a directory
    have hne : names ≠ [] := by
      rintro rfl
      rw [List.append_nil] at hcontent
      simp [Filesystem.isDirectory, hcontent] at hdirectory
    obtain ⟨dirs, name, rfl⟩ := (List.eq_nil_or_concat' names).resolve_left hne
    refine ⟨dirs, name, (List.append_assoc ..).symm, fun stem extension hsplit hextension => ?_,
      fun hnone => ?_⟩
    · have hstem : stemOfWay? ((dirs ++ [name]).map .named) = some stem := by
        rw [stemOfWay?_map_named, sourceStem?_eq_some_iff.mpr ⟨extension, hsplit, hextension⟩]
      have hdirs : ((dirs ++ [name]).map Component.named).dropLast.map Component.text = dirs := by
        simp [Function.comp_def, Component.text]
      rw [deriveModulePath_of_way hrelative hstem, hdirs]
    · simp only [deriveModulePath, hrelative, stemOfWay?_map_named, hnone]
  · intro hbelow
    rw [if_neg fun hprefix => hbelow (List.isPrefixOf_iff_prefix.mp hprefix)] at hrelative
    simp only [deriveModulePath, hrelative]

end

/-- A directory with a source file of its own and one further down. -/
def sampleTree : Filesystem :=
  ((Filesystem.empty ["w"]).write ⟨"main.brk"⟩ (.text "")).write ⟨"src/io/adc.brk"⟩ (.text "")

/-- An absolute name through two dots below a relative root. -/
theorem deriveModulePath_mixedSpelling :
    sampleTree.follow ⟨"/w/src/../src//io/adc.brk"⟩ = .ok ["w", "src", "io", "adc.brk"] ∧
      sampleTree.follow ⟨"./src"⟩ = .ok ["w", "src"] ∧
      deriveModulePath sampleTree ⟨"/w/src/../src//io/adc.brk"⟩ ⟨"./src"⟩ (some "plant") =
        .ok ⟨some "plant", ["io"], "adc"⟩ := by
  have hfile : sampleTree.follow ⟨"/w/src/../src//io/adc.brk"⟩ =
      .ok ["w", "src", "io", "adc.brk"] := by decide +kernel
  have hroot : sampleTree.follow ⟨"./src"⟩ = .ok ["w", "src"] := by decide +kernel
  obtain ⟨dirs, name, hlocation, hderived, -⟩ := (deriveModulePath_of_follow hfile
    (show sampleTree.entry? _ = some (.file (.text "")) by decide +kernel) hroot
    (by decide +kernel) (fun hnil => absurd hnil (by decide +kernel)) (some "plant")).1
    ⟨["io", "adc.brk"], rfl⟩
  have hnames : ["io"] ++ ["adc.brk"] = dirs ++ [name] := by
    have hcut := congrArg (List.drop 2) hlocation
    exact hcut
  obtain ⟨rfl, hname⟩ := List.append_inj' hnames rfl
  obtain rfl := List.singleton_inj.mp hname
  refine ⟨hfile, hroot, (hderived "adc" "brk" (by decide +kernel) (.inl rfl)).trans ?_⟩
  exact if_pos (by decide +kernel)

/-- An absolute name that never leads up has no module path below a root without a step: the
slash at its start is in the way as if it were a directory. -/
theorem deriveModulePath_of_steps_eq_nil {file root : FileName} (hroot : root.steps = [])
    (habsolute : file.isAbsolute = true) (hup : .up ∉ file.steps) (fs : Filesystem)
    (package : Option String) :
    deriveModulePath fs file root package = .error (.notSource file) ∨
      ∃ names, deriveModulePath fs file root package = .error (.invalidNames names) ∧
        "/" ∈ names := by
  have hwritten : writtenWay? file root = some file.steps :=
    writtenWay?_eq_some_iff.mpr ⟨by rw [hroot, List.nil_append], hup⟩
  have hrelative : relativeToRoot fs file root = some file.steps := by
    rw [relativeToRoot, hwritten]
  cases hstem : stemOfWay? file.steps with
  | none => exact .inl (by simp only [deriveModulePath, hrelative, hstem])
  | some stem =>
      right
      have hslash : "/" ∈ file.steps.dropLast.map Component.text := by
        rw [FileName.steps_eq, if_pos habsolute, List.singleton_append] at hstem ⊢
        cases hrest : file.parts.filterMap Component.ofPart? with
        | nil => simp [hrest, stemOfWay?] at hstem
        | cons first more => simp [Component.text]
      have hunfit : ¬ModulePath.WellFormed
          ⟨package, file.steps.dropLast.map Component.text, stem⟩ := by
        intro hfit
        have hmem := hfit "/" (List.mem_append_left _ (List.mem_append_right _ hslash))
        exact absurd hmem (by decide)
      refine ⟨_, (deriveModulePath_of_way hrelative hstem package).trans (if_neg hunfit), ?_⟩
      rw [List.mem_filter]
      exact ⟨List.mem_append_left _ (List.mem_append_right _ hslash), by decide⟩

/-- A file right below the current directory is refused if its name is absolute. -/
theorem deriveModulePath_absolute_dot :
    sampleTree.follow ⟨"/w/main.brk"⟩ = .ok ["w", "main.brk"] ∧
      sampleTree.entry? ["w", "main.brk"] = some (.file (.text "")) ∧
      sampleTree.follow ⟨"."⟩ = .ok ["w"] ∧ sampleTree.isDirectory ["w"] = true ∧
      deriveModulePath sampleTree ⟨"main.brk"⟩ ⟨"."⟩ none = .ok ⟨none, [], "main"⟩ ∧
      deriveModulePath sampleTree ⟨"/w/main.brk"⟩ ⟨"."⟩ none = .error (.invalidNames ["/"]) := by
  decide +kernel

end BriskModules
