import BriskModules.Proofs.Module.Derivation
import BriskModules.Proofs.Module.Places

/-!
File names that are spelled differently and lead to the same place.

A file name is followed part by part, but parts that mean nothing only ask for a directory, which
the next step asks for as well. So a name that ends in a part with a meaning leads wherever its
steps lead, and another spelling with the same steps leads there too. In a tree, where everything
lies in a directory, the names in a location lead down to it from any place above.

* `Filesystem.walk`: the walk along some steps;
* `walk_of_follow`, `follow_of_walk`: a name is followed by the walk along its steps;
* `FileName.steps_join`: the steps of a name below a directory;
* `isReadable_iff`: the names under which files can be opened;
* `Filesystem.IsTree`, `IsTree.foldlM_enter`: trees, and the way down in them.
-/

namespace BriskModules

/-- A component is written as the part it comes from. -/
lemma Component.text_of_ofPart? {part : String} {component : Component}
    (h : ofPart? part = some component) : component.text = part := by
  rw [ofPart?] at h
  split_ifs at h with hnone hup
  · rw [← Option.some.inj h, hup]
    rfl
  · rw [← Option.some.inj h]
    rfl

/-! ### Walks along steps -/

namespace Filesystem

variable {fs : Filesystem} {location found : Location}

variable (fs) in
/-- Where a step leads: the slash at the start of a name leads to the root, and any other step
where the part leads that it is written as. -/
def enter (location : Location) : Component → Except AccessError Location
  | .root => .ok []
  | component => fs.step location component.text

variable (fs) in
/-- Where some steps lead from the current directory. -/
def walk (steps : List Component) : Except AccessError Location :=
  steps.foldlM fs.enter fs.current

/-- A part with a meaning leads where its step leads. -/
lemma enter_of_ofPart? {part : String} {component : Component}
    (h : Component.ofPart? part = some component) (location : Location) :
    fs.enter location component = fs.step location part := by
  have htext := Component.text_of_ofPart? h
  rcases eq_up_or_named_of_ofPart? h with rfl | ⟨name, rfl⟩
  · rw [enter, htext]
    simp
  · rw [enter, htext]
    simp

/-- A part without a meaning asks for a directory and stays there. -/
lemma step_of_ofPart?_eq_none {part : String} (h : Component.ofPart? part = none) :
    fs.step location part = .ok found ↔ fs.isDirectory location = true ∧ found = location := by
  rw [step, h]
  by_cases hdirectory : fs.isDirectory location = true
  · simp [hdirectory, eq_comm]
  · simp [hdirectory]

lemma foldlM_cons_eq_ok {β : Type} {next : Location → β → Except AccessError Location} {b : β}
    {more : List β} : (b :: more).foldlM next location = .ok found ↔
      ∃ middle, next location b = .ok middle ∧ more.foldlM next middle = .ok found := by
  rw [List.foldlM_cons]
  cases next location b <;> simp [bind, Except.bind]

/-- Parts without a meaning lead nowhere. -/
lemma foldlM_step_of_ofPart?_eq_none {parts : List String}
    (hdirectory : fs.isDirectory location = true)
    (h : ∀ part ∈ parts, Component.ofPart? part = none) :
    parts.foldlM fs.step location = .ok location := by
  induction parts with
  | nil => rfl
  | cons part more ih =>
      exact foldlM_cons_eq_ok.mpr ⟨location,
        (step_of_ofPart?_eq_none (h part (.head more))).mpr ⟨hdirectory, rfl⟩,
        ih fun other hother => h other (.tail part hother)⟩

/-- Parts that can be followed lead where their steps lead. -/
lemma foldlM_enter_of_foldlM_step {parts : List String}
    (h : parts.foldlM fs.step location = .ok found) :
    (parts.filterMap Component.ofPart?).foldlM fs.enter location = .ok found := by
  induction parts generalizing location with
  | nil => exact h
  | cons part more ih =>
      obtain ⟨middle, hstep, hmore⟩ := foldlM_cons_eq_ok.mp h
      cases hcomponent : Component.ofPart? part with
      | none =>
          obtain ⟨-, rfl⟩ := (step_of_ofPart?_eq_none hcomponent).mp hstep
          rw [List.filterMap_cons_none hcomponent]
          exact ih hmore
      | some component =>
          rw [List.filterMap_cons_some hcomponent]
          exact foldlM_cons_eq_ok.mpr
            ⟨middle, (enter_of_ofPart? hcomponent _).trans hstep, ih hmore⟩

/-- Where a step leads that a part is written as, there is a directory. -/
lemma isDirectory_of_foldlM_enter {parts : List String} {last : String} {component : Component}
    (hlast : Component.ofPart? last = some component)
    (h : ((parts ++ [last]).filterMap Component.ofPart?).foldlM fs.enter location = .ok found) :
    fs.isDirectory location = true := by
  obtain ⟨first, more, hfirst⟩ := List.exists_cons_of_ne_nil
    (l := (parts ++ [last]).filterMap Component.ofPart?) (by simp [hlast])
  obtain ⟨part, -, hpart⟩ := List.mem_filterMap.mp (hfirst ▸ List.mem_cons_self)
  rw [hfirst] at h
  obtain ⟨middle, hstep, -⟩ := foldlM_cons_eq_ok.mp h
  rw [enter_of_ofPart? hpart] at hstep
  by_contra hdirectory
  simp [step, hdirectory] at hstep

/-- If the last part has a meaning, parts can be followed where their steps lead. -/
lemma foldlM_step_of_foldlM_enter {parts : List String} {last : String} {component : Component}
    (hlast : Component.ofPart? last = some component)
    (h : ((parts ++ [last]).filterMap Component.ofPart?).foldlM fs.enter location = .ok found) :
    (parts ++ [last]).foldlM fs.step location = .ok found := by
  induction parts generalizing location with
  | nil =>
      rw [List.nil_append, List.filterMap_cons_some hlast] at h
      obtain ⟨middle, hstep, hmore⟩ := foldlM_cons_eq_ok.mp h
      exact foldlM_cons_eq_ok.mpr ⟨middle, (enter_of_ofPart? hlast _).symm.trans hstep, hmore⟩
  | cons part more ih =>
      rw [List.cons_append] at h ⊢
      cases hcomponent : Component.ofPart? part with
      | none =>
          rw [List.filterMap_cons_none hcomponent] at h
          exact foldlM_cons_eq_ok.mpr ⟨location,
            (step_of_ofPart?_eq_none hcomponent).mpr ⟨isDirectory_of_foldlM_enter hlast h, rfl⟩,
            ih h⟩
      | some component =>
          rw [List.filterMap_cons_some hcomponent] at h
          obtain ⟨middle, hstep, hmore⟩ := foldlM_cons_eq_ok.mp h
          exact foldlM_cons_eq_ok.mpr
            ⟨middle, (enter_of_ofPart? hcomponent _).symm.trans hstep, ih hmore⟩

/-- The steps of a name lead where the steps of its parts lead from where the name starts. -/
lemma walk_steps (fs : Filesystem) (file : FileName) :
    fs.walk file.steps =
      (file.parts.filterMap Component.ofPart?).foldlM fs.enter (fs.origin file) := by
  rw [walk, FileName.steps_eq, origin]
  split_ifs
  · rw [List.singleton_append, List.foldlM_cons]
    rfl
  · rfl

/-- A name that can be followed leads where its steps lead. -/
lemma walk_of_follow {file : FileName} (h : fs.follow file = .ok location) :
    fs.walk file.steps = .ok location := by
  rw [follow] at h
  split_ifs at h
  rw [walk_steps]
  exact foldlM_enter_of_foldlM_step h

end Filesystem

/-! ### Spelling -/

namespace FileName

/-- There is a zero in a name exactly if there is one in a step. -/
lemma zero_notMem_text_iff {file : FileName} :
    '\x00' ∉ file.text.toList ↔ ∀ component ∈ file.steps, '\x00' ∉ component.text.toList := by
  have hslash : '\x00' ≠ '/' := by decide
  have hparts : '\x00' ∈ file.text.toList ↔ ∃ part ∈ file.parts, '\x00' ∈ part.toList := by
    rw [← Text.exists_mem_pieces_iff hslash, parts, Text.cut]
    simp
  rw [hparts, steps_eq]
  constructor
  · intro hzero component hmem hcomponent
    rcases List.mem_append.mp hmem with hroot | hpart
    · split_ifs at hroot
      · rw [List.mem_singleton.mp hroot] at hcomponent
        exact absurd hcomponent (by decide)
      · simp at hroot
    · obtain ⟨part, hpart, hofPart⟩ := List.mem_filterMap.mp hpart
      exact hzero ⟨part, hpart, Component.text_of_ofPart? hofPart ▸ hcomponent⟩
  · rintro hzero ⟨part, hpart, hmem⟩
    cases hcomponent : Component.ofPart? part with
    | some component =>
        refine hzero component ?_ (Component.text_of_ofPart? hcomponent ▸ hmem)
        exact List.mem_append_right _ (List.mem_filterMap.mpr ⟨part, hpart, hcomponent⟩)
    | none =>
        -- such a part is empty or a dot
        have hdots : part = "" ∨ part = "." := by
          by_contra hother
          rw [Component.ofPart?, if_neg hother] at hcomponent
          split_ifs at hcomponent
        rcases hdots with rfl | rfl <;> exact absurd hmem (by decide)

/-- Whether a relative name below a directory is absolute is up to the directory. -/
lemma isAbsolute_join {directory file : FileName} (h : file.isAbsolute = false) :
    (directory.join file).isAbsolute = directory.isAbsolute := by
  obtain ⟨dir⟩ := directory
  rw [join, if_neg (by simp [h])]
  by_cases hempty : dir = ""
  · subst hempty
    rw [if_pos (.inl rfl), String.empty_append]
    exact h
  · obtain ⟨c, rest, hc⟩ := List.exists_cons_of_ne_nil (l := dir.toList) (by simpa using hempty)
    simp only [isAbsolute]
    split_ifs <;> simp [hc]

/-- What is left out in front of another name has no meaning. -/
lemma filterMap_trail (directory : FileName) :
    directory.trail.filterMap Component.ofPart? = directory.parts.filterMap Component.ofPart? := by
  rw [trail]
  split_ifs with hlast
  · have hparts : ∃ front, directory.parts = front ++ [""] := by
      rcases hlast with hempty | hslash
      · exact ⟨[], by rw [parts, hempty]; decide⟩
      · obtain ⟨before, hbefore⟩ := List.getLast?_eq_some_iff.mp hslash
        refine ⟨(Text.pieces '/' before).map String.ofList, ?_⟩
        rw [parts, Text.cut, hbefore, Text.pieces_append_sep, List.map_append]
        rfl
    obtain ⟨front, hfront⟩ := hparts
    rw [hfront, List.dropLast_concat, List.filterMap_append]
    simp [Component.ofPart?]
  · rfl

/-- The steps of a relative name below a directory. -/
lemma steps_join {directory file : FileName} (h : file.isAbsolute = false) :
    (directory.join file).steps = directory.steps ++ file.steps := by
  rw [steps_eq, steps_eq, steps_eq, isAbsolute_join h, parts_join h, List.filterMap_append,
    filterMap_trail, h, if_neg Bool.false_ne_true, List.nil_append, List.append_assoc]

end FileName

namespace Filesystem

variable {fs : Filesystem} {file : FileName} {location : Location}

/-- If the last part of a name has a meaning, the name can be followed where its steps lead. -/
lemma follow_of_walk {front : List String} {last : String}
    {component : Component} (hparts : file.parts = front ++ [last])
    (hlast : Component.ofPart? last = some component)
    (hzero : ∀ component ∈ file.steps, '\x00' ∉ component.text.toList)
    (h : fs.walk file.steps = .ok location) : fs.follow file = .ok location := by
  have hempty : file.text ≠ "" := by
    intro hempty
    have hempties : front ++ [last] = [""] := by
      rw [← hparts, FileName.parts, hempty]
      decide
    obtain ⟨-, hlastEmpty⟩ := List.append_inj' (hempties.trans (List.nil_append [""]).symm) rfl
    rw [List.singleton_inj.mp hlastEmpty] at hlast
    cases hlast
  rw [walk_steps, hparts] at h
  rw [follow, if_neg (FileName.zero_notMem_text_iff.mpr hzero), if_neg hempty, hparts]
  exact foldlM_step_of_foldlM_enter hlast h

/-! ### Opening files -/

/-- What can be opened under a short name is what the name leads to. -/
lemma locate_eq_follow (h : file.text.utf8ByteSize < pathLimit) :
    fs.locate file = fs.follow file := by
  rw [locate]
  split_ifs with hzero hlong
  · rw [follow, if_pos hzero]
  · exact absurd h (Nat.not_lt.mpr hlong)
  · rfl

/-- A name leads to a file that may be opened if it is short and there is such a file. -/
lemma isReadable_iff : fs.isReadable file = true ↔ file.text.utf8ByteSize < pathLimit ∧
    ∃ location content, fs.follow file = .ok location ∧
      fs.entry? location = some (.file content) ∧ content ≠ .denied := by
  by_cases hshort : file.text.utf8ByteSize < pathLimit
  · rw [isReadable, locate_eq_follow hshort]
    cases fs.follow file with
    | error error => simp
    | ok location =>
        rcases hentry : fs.entry? location with _ | entry
        · simp [hentry]
        · cases entry <;> simp [hentry, hshort]
  · have hlocate : ∀ location, fs.locate file ≠ .ok location := by
      intro location hlocate
      rw [locate] at hlocate
      split_ifs at hlocate with _ hlong
      exact hlong (Nat.not_lt.mp hshort)
    rw [isReadable]
    split
    · next location hfound => exact absurd hfound (hlocate location)
    · simp [hshort]

/-! ### Trees -/

variable (fs) in
/-- In a tree everything lies in a directory, under a name that is not too long. -/
def IsTree : Prop :=
  ∀ location ∈ fs.entries.keys, fs.isDirectory location.dropLast = true ∧
    ∀ name ∈ location, name.utf8ByteSize ≤ nameLimit

instance (fs : Filesystem) : Decidable fs.IsTree :=
  inferInstanceAs (Decidable (∀ location ∈ fs.entries.keys, _))

lemma mem_keys_of_isSome (hne : location ≠ []) (h : (fs.entry? location).isSome = true) :
    location ∈ fs.entries.keys := by
  unfold entry? at h
  rw [if_neg hne] at h
  rwa [Std.ExtTreeMap.mem_keys, Std.ExtTreeMap.mem_iff_isSome_getElem?]

namespace IsTree

variable {top : Location} {names : List String}

/-- What lies further down lies below a directory. -/
lemma isDirectory (h : fs.IsTree) (hne : names ≠ [])
    (hentry : (fs.entry? (top ++ names)).isSome = true) : fs.isDirectory top = true := by
  induction names using List.reverseRecOn with
  | nil => exact absurd rfl hne
  | append_singleton front last ih =>
      have hparent := (h _ (mem_keys_of_isSome (by simp) hentry)).1
      rw [← List.append_assoc, List.dropLast_concat] at hparent
      by_cases hfront : front = []
      · rwa [hfront, List.append_nil] at hparent
      · refine ih hfront ?_
        rw [Filesystem.isDirectory, decide_eq_true_eq] at hparent
        rw [hparent]
        rfl

/-- Plain names lead down to what lies below them. -/
lemma foldlM_enter (h : fs.IsTree)
    (hnames : ∀ name ∈ names, Component.ofPart? name = some (.named name))
    (hentry : (fs.entry? (top ++ names)).isSome = true) :
    (names.map Component.named).foldlM fs.enter top = .ok (top ++ names) := by
  induction names generalizing top with
  | nil => simp; rfl
  | cons name more ih =>
      have hbelow : top ++ name :: more = top ++ [name] ++ more := by simp
      have hdirectory := h.isDirectory (List.cons_ne_nil name more) hentry
      have hkey := mem_keys_of_isSome (by simp) hentry
      have hshort := (h _ hkey).2 name (by simp)
      have hnext : (fs.entry? (top ++ [name])).isSome = true := by
        rw [hbelow] at hentry
        cases more with
        | nil => simpa using hentry
        | cons next rest =>
            have hmiddle := h.isDirectory (List.cons_ne_nil next rest) hentry
            rw [Filesystem.isDirectory, decide_eq_true_eq] at hmiddle
            rw [hmiddle]
            rfl
      have hplain := hnames name (.head more)
      have hstep : fs.enter top (.named name) = .ok (top ++ [name]) := by
        rw [enter_of_ofPart? hplain, step, hplain]
        simp [hdirectory, hnext, Nat.not_lt.mpr hshort]
      rw [List.map_cons, hbelow]
      exact foldlM_cons_eq_ok.mpr ⟨_, hstep,
        ih (fun other hother => hnames other (.tail name hother)) (hbelow ▸ hentry)⟩

end IsTree

end Filesystem

end BriskModules
