import BriskModules.File.System
import BriskModules.Proofs.Module.Identifier
import BriskModules.Proofs.Text.Pieces

/-!
What the parts of file names become when names are put below one another, and where they lead.

* `FileName.trail`: the parts that stay in front when a name is put below another one;
* `parts_join`, `parts_ofSegments`: the parts of names below one another;
* `eq_of_join_eq`: when names that become the same below a directory are the same;
* `splitExtension_eq_some_iff`: where a name is cut into stem and extension;
* `parts_withExtension`: an extension goes to the last part;
* `Component.move`: where a component leads;
* `eq_foldl_move_of_foldlM_step`: parts that can be followed lead where their components lead;
* `follow_eq_ok`: a file name that ends in plain names leads to a location that ends in them.
-/

namespace BriskModules

/-- An identifier is a plain name in a file name. -/
lemma ofPart?_of_isIdentifier {text : String} (h : isIdentifier text = true) :
    Component.ofPart? text = some (.named text) := by
  have hdot : '.' ∉ text.toList := notMem_of_isIdentifier h (by decide)
  have h₁ : text ≠ "." := by rintro rfl; simp at hdot
  have h₂ : text ≠ ".." := by rintro rfl; simp at hdot
  simp [Component.ofPart?, ne_empty_of_isIdentifier h, h₁, h₂]

/-- A plain name is not empty. -/
lemma ne_empty_of_ofPart? {name : String}
    (h : Component.ofPart? name = some (.named name)) : name ≠ "" := by
  rintro rfl
  simp [Component.ofPart?] at h

/-- Plain names mean themselves. -/
lemma filterMap_ofPart?_eq_map {names : List String}
    (h : ∀ name ∈ names, Component.ofPart? name = some (.named name)) :
    names.filterMap Component.ofPart? = names.map .named := by
  rw [← List.filterMap_eq_map]
  exact List.filterMap_congr h

namespace FileName

/-! ### Names below one another -/

/-- The parts that stay in front when a name is put below another one: all of them, less the
empty one behind a slash at the end. -/
def trail (file : FileName) : List String :=
  if file.text = "" ∨ file.text.toList.getLast? = some '/' then file.parts.dropLast
  else file.parts

lemma notMem_of_mem_parts {file : FileName} {part : String} (h : part ∈ file.parts) :
    '/' ∉ part.toList :=
  Text.notMem_of_mem_cut h

/-- A name is absolute iff it has an empty part in front of others. -/
lemma isAbsolute_eq_true_iff {file : FileName} :
    file.isAbsolute = true ↔ ∃ part more, file.parts = "" :: part :: more := by
  obtain ⟨text⟩ := file
  simp only [isAbsolute, decide_eq_true_eq, parts, Text.cut]
  cases htext : text.toList with
  | nil => simp [Text.pieces]
  | cons c rest =>
      cases hrest : Text.pieces '/' rest with
      | nil => exact absurd hrest (Text.pieces_ne_nil '/' rest)
      | cons piece more =>
          by_cases hc : c = '/'
          · simp [Text.pieces, hc, hrest]
          · simp only [List.head?_cons, Option.some.injEq, hc, Text.pieces, ↓reduceIte, hrest,
              List.map_cons, List.cons.injEq, false_iff, not_exists, not_and]
            intro _ _ hempty
            simp [← String.toList_inj] at hempty

/-- The parts of a relative name that is put below a directory. -/
lemma parts_join {directory file : FileName} (h : file.isAbsolute = false) :
    (directory.join file).parts = directory.trail ++ file.parts := by
  obtain ⟨dir⟩ := directory
  obtain ⟨name⟩ := file
  simp only [join, h, Bool.false_eq_true, ↓reduceIte, trail, parts]
  by_cases hempty : dir = ""
  · subst hempty
    simp [Text.cut, Text.pieces]
  · by_cases hslash : dir.toList.getLast? = some '/'
    · simp only [hslash, or_true, ↓reduceIte]
      obtain ⟨before, hbefore⟩ := List.getLast?_eq_some_iff.mp hslash
      have hdir : dir = String.ofList before ++ String.singleton '/' := by
        simp [← String.toList_inj, hbefore]
      rw [hdir, Text.cut_append_sep, ← String.append_empty (s := _ ++ String.singleton '/'),
        Text.cut_append_sep]
      simp [Text.cut, Text.pieces]
    · simp only [hempty, hslash, or_self, ↓reduceIte]
      exact Text.cut_append_sep dir name

/-- Relative names stay at the end of the text when they are put below a directory. -/
lemma exists_text_join (directory : FileName) :
    ∃ front, ∀ file : FileName, file.isAbsolute = false →
      (directory.join file).text = front ++ file.text := by
  by_cases hopen : directory.text = "" ∨ directory.text.toList.getLast? = some '/'
  · exact ⟨directory.text, fun file h => by simp [join, h, hopen]⟩
  · exact ⟨directory.text ++ "/", fun file h => by simp [join, h, hopen]⟩

/-- Two names that become the same below a directory are the same, if the first is no longer than
the second, and absolute if the second is. -/
lemma eq_of_join_eq {directory first second : FileName}
    (hlength : first.text.length ≤ second.text.length)
    (habsolute : second.isAbsolute = true → first.isAbsolute = true)
    (h : directory.join first = directory.join second) : first = second := by
  obtain ⟨front, htext⟩ := exists_text_join directory
  cases hsecond : second.isAbsolute with
  | true => simpa [join, hsecond, habsolute hsecond] using h
  | false =>
      have hjoined := htext second hsecond
      rw [← h] at hjoined
      cases hfirst : first.isAbsolute with
      | true =>
          -- the first name stands for itself, and has no room for anything before the second
          rw [join, if_pos hfirst] at hjoined
          have hfront : front.length = 0 := by
            have hlengths := congrArg String.length hjoined
            rw [String.length_append] at hlengths
            omega
          rw [String.length_eq_zero_iff.mp hfront, String.empty_append] at hjoined
          exact congrArg FileName.mk hjoined
      | false =>
          rw [htext first hfirst] at hjoined
          exact congrArg FileName.mk ((String.append_right_inj front).mp hjoined)

lemma parts_of_isIdentifier {name : String} (h : isIdentifier name = true) :
    parts ⟨name⟩ = [name] :=
  Text.cut_of_notMem (notMem_of_isIdentifier h (by decide))

lemma isAbsolute_of_isIdentifier {name : String} (h : isIdentifier name = true) :
    isAbsolute ⟨name⟩ = false := by
  rw [← Bool.not_eq_true, isAbsolute_eq_true_iff, parts_of_isIdentifier h]
  simp

/-- A directory below another one comes behind all that stays in front. -/
lemma trail_join {directory : FileName} {name : String} (h : isIdentifier name = true) :
    (directory.join ⟨name⟩).trail = directory.trail ++ [name] := by
  have hrelative := isAbsolute_of_isIdentifier h
  obtain ⟨front, htext⟩ := exists_text_join directory
  have hfront := htext ⟨name⟩ hrelative
  have hname : name.toList ≠ [] := fun hnil =>
    ne_empty_of_isIdentifier h (String.toList_inj.mp (by simpa using hnil))
  have hempty : ¬(directory.join ⟨name⟩).text = "" := by
    rw [hfront, ← String.toList_inj]
    simp [hname]
  have hslash : ¬(directory.join ⟨name⟩).text.toList.getLast? = some '/' := by
    rw [hfront, String.toList_append, List.getLast?_append_of_ne_nil _ hname]
    intro hlast
    exact notMem_of_isIdentifier h (by decide) (List.mem_of_getLast? hlast)
  rw [trail, if_neg (by simp only [hempty, hslash, or_self, not_false_eq_true]),
    parts_join hrelative, parts_of_isIdentifier h]

/-- Directories below one another come one behind the other. -/
lemma trail_foldl_join {names : List String} (h : ∀ name ∈ names, isIdentifier name = true)
    (directory : FileName) :
    (names.foldl (fun file name => file.join ⟨name⟩) directory).trail =
      directory.trail ++ names := by
  induction names generalizing directory with
  | nil => simp
  | cons name more ih =>
      rw [List.foldl_cons, ih (fun n hn => h n (List.mem_cons_of_mem name hn)),
        trail_join (h name (by simp)), List.append_assoc, List.singleton_append]

/-- Segments that end in identifiers have these as their last parts. -/
lemma parts_ofSegments (front : List String) {names : List String} {last : String}
    (hnames : ∀ name ∈ names, isIdentifier name = true) (hlast : isIdentifier last = true) :
    (ofSegments (front ++ names ++ [last])).parts =
      (ofSegments front).trail ++ names ++ [last] := by
  simp only [ofSegments, List.foldl_append, List.foldl_cons, List.foldl_nil]
  rw [parts_join (isAbsolute_of_isIdentifier hlast), trail_foldl_join hnames,
    parts_of_isIdentifier hlast]

/-! ### Extensions -/

lemma splitExtension_of_isIdentifier {name : String} (h : isIdentifier name = true) :
    splitExtension name = (name, none) := by
  have hdot : '.' ∉ name.toList := notMem_of_isIdentifier h (by decide)
  have hup : name ≠ ".." := by rintro rfl; simp at hdot
  simp [splitExtension, hup, Text.cut_of_notMem hdot]

/-- What stands in front of a last dot is cut off, unless it is nothing. -/
lemma splitExtension_append {stem extension : String} (hstem : stem ≠ "")
    (hextension : '.' ∉ extension.toList) (hup : stem ++ "." ++ extension ≠ "..") :
    splitExtension (stem ++ "." ++ extension) = (stem, some extension) := by
  have hcut : Text.cut '.' (stem ++ "." ++ extension) = Text.cut '.' stem ++ [extension] := by
    rw [← Text.cut_of_notMem hextension]
    exact Text.cut_append_sep stem extension
  obtain ⟨before, more, hmore⟩ := List.exists_cons_of_ne_nil (l := (Text.cut '.' stem).reverse)
    (by simp [Text.cut, Text.pieces_ne_nil])
  have hjoined : Text.joined "." (before :: more).reverse = stem := by
    rw [← hmore, List.reverse_reverse]
    exact Text.joined_cut '.' stem
  have honly : ¬(more = [] ∧ before = "") := by
    rintro ⟨rfl, rfl⟩
    exact hstem hjoined.symm
  rw [splitExtension, if_neg hup, hcut, List.reverse_append, hmore]
  simp only [List.reverse_singleton, List.singleton_append, if_neg honly, hjoined]

/-- A name with an extension is not two dots. -/
lemma append_extension_ne_up {extension : String} (hne : extension ≠ "")
    (hextension : '.' ∉ extension.toList) (stem : String) : stem ++ "." ++ extension ≠ ".." := by
  intro hup
  have hlist : extension.toList ≠ [] := fun hnil => hne (String.toList_eq_nil_iff.mp hnil)
  have hlast : extension.toList.getLast? = some '.' := by
    rw [← List.getLast?_append_of_ne_nil (stem ++ ".").toList hlist, ← String.toList_append, hup]
    rfl
  exact hextension (List.mem_of_getLast? hlast)

/-- A name is cut at its last dot, and only if something stands in front of it. -/
lemma splitExtension_eq_some_iff {name stem extension : String} :
    splitExtension name = (stem, some extension) ↔
      stem ≠ "" ∧ '.' ∉ extension.toList ∧ name ≠ ".." ∧ name = stem ++ "." ++ extension := by
  constructor
  · intro h
    rw [splitExtension] at h
    split_ifs at h with hup
    · cases h
    split at h
    · next last before more hcut =>
        split_ifs at h with honly
        · cases h
        obtain ⟨rfl, hlast⟩ := Prod.mk.inj h
        obtain rfl := Option.some.inj hlast
        have hparts : Text.cut '.' name = (before :: more).reverse ++ [last] := by
          rw [← List.reverse_reverse (Text.cut '.' name), hcut, List.reverse_cons]
        have hdot : ∀ part ∈ (before :: more).reverse ++ [last], '.' ∉ part.toList :=
          fun part hpart => Text.notMem_of_mem_cut (hparts ▸ hpart)
        refine ⟨fun hstem => honly ?_, hdot last (by simp), hup, ?_⟩
        · -- parts without dots that are joined to nothing are one empty part
          have hfront : Text.cut '.' (Text.joined "." (before :: more).reverse) =
              (before :: more).reverse :=
            @Text.cut_joined '.' _ (by simp) fun part hpart =>
              hdot part (List.mem_append_left _ hpart)
          rw [hstem, show Text.cut '.' "" = [""] by decide, eq_comm, List.reverse_eq_iff] at hfront
          exact (List.cons.inj hfront).symm
        · calc name = Text.joined "." (Text.cut '.' name) := (Text.joined_cut '.' name).symm
            _ = Text.joined "." ((before :: more).reverse ++ [last]) := by rw [hparts]
            _ = Text.joined "." (before :: more).reverse ++ "." ++ last :=
              Text.joined_concat '.' (by simp) last
    · cases h
  · rintro ⟨hstem, hextension, hup, rfl⟩
    exact splitExtension_append hstem hextension hup

/-- The extension of a file is put behind its last part. -/
lemma parts_withExtension {file : FileName} {front : List String} {last extension : String}
    (hparts : file.parts = front ++ [last]) (hlast : isIdentifier last = true)
    (hne : extension ≠ "") (hextension : '/' ∉ extension.toList) :
    (file.withExtension extension).parts = front ++ [last ++ "." ++ extension] := by
  have hdot : '.' ∉ last.toList := notMem_of_isIdentifier hlast (by decide)
  have h₁ : last ≠ "." := by rintro rfl; simp at hdot
  have h₂ : last ≠ ".." := by rintro rfl; simp at hdot
  have hsplit : file.splitLast? = some (front, last) := by
    simp [splitLast?, hparts, ne_empty_of_isIdentifier hlast, h₁, h₂]
  simp only [withExtension, hsplit, splitExtension_of_isIdentifier hlast, hne, ↓reduceIte, parts]
  refine @Text.cut_joined '/' _ (by simp) fun part hpart => ?_
  rcases List.mem_append.mp hpart with hfront | hrenamed
  · have hmem : part ∈ file.parts := by simp [hparts, hfront]
    exact notMem_of_mem_parts hmem
  · rw [List.mem_singleton.mp hrenamed]
    have hslash : '/' ∉ last.toList := notMem_of_isIdentifier hlast (by decide)
    simp [hslash, hextension]

end FileName

/-! ### Following names -/

/-- Where a component of a file name leads from a location, if everything is there. -/
def Component.move (location : Location) : Component → Location
  | .root => []
  | .here => location
  | .up => location.dropLast
  | .named name => location ++ [name]

/-- Names lead down. -/
lemma foldl_move_named (names : List String) (location : Location) :
    (names.map Component.named).foldl Component.move location = location ++ names := by
  induction names generalizing location with
  | nil => simp
  | cons name more ih =>
      rw [List.map_cons, List.foldl_cons, ih, Component.move, List.append_assoc,
        List.singleton_append]

/-- A part of a file name leads up or down. -/
lemma eq_up_or_named_of_ofPart? {part : String} {component : Component}
    (h : Component.ofPart? part = some component) :
    component = .up ∨ ∃ name, component = .named name := by
  rw [Component.ofPart?] at h
  split_ifs at h
  · exact .inl (Option.some.inj h).symm
  · exact .inr ⟨part, (Option.some.inj h).symm⟩

namespace Filesystem

variable {fs : Filesystem}

/-- A part that can be followed leads where its component leads. -/
lemma eq_move_of_step {location found : Location} {part : String}
    (h : fs.step location part = .ok found) :
    found = (Component.ofPart? part).toList.foldl Component.move location := by
  rw [step] at h
  split_ifs at h
  cases hcomponent : Component.ofPart? part with
  | none =>
      rw [hcomponent] at h
      exact (Except.ok.inj h).symm
  | some component =>
      rcases eq_up_or_named_of_ofPart? hcomponent with rfl | ⟨name, rfl⟩
      · rw [hcomponent] at h
        exact (Except.ok.inj h).symm
      · simp only [hcomponent] at h
        split_ifs at h
        exact (Except.ok.inj h).symm

/-- Parts that can be followed lead where their components lead. -/
lemma eq_foldl_move_of_foldlM_step {parts : List String} {location found : Location}
    (h : parts.foldlM fs.step location = .ok found) :
    found = (parts.filterMap Component.ofPart?).foldl Component.move location := by
  induction parts generalizing location with
  | nil => exact (Except.ok.inj h).symm
  | cons part more ih =>
      rw [List.foldlM_cons] at h
      cases hstep : fs.step location part with
      | error error => simp [hstep, bind, Except.bind] at h
      | ok next =>
          rw [hstep] at h
          rw [ih h, eq_move_of_step hstep, ← List.foldl_append]
          cases hcomponent : Component.ofPart? part <;> simp [hcomponent]

/-- Plain names lead to the location that ends in them. -/
lemma foldlM_step_eq_ok {location found : Location} {names : List String}
    (hnames : ∀ name ∈ names, Component.ofPart? name = some (.named name))
    (h : names.foldlM fs.step location = .ok found) : found = location ++ names := by
  rw [eq_foldl_move_of_foldlM_step h, filterMap_ofPart?_eq_map hnames, foldl_move_named]

/-- A file name that can be followed is followed through any of its parts. -/
lemma exists_foldlM_of_follow {file : FileName} {front names : List String} {found : Location}
    (hparts : file.parts = front ++ names) (h : fs.follow file = .ok found) :
    ∃ location, front.foldlM fs.step (fs.origin file) = .ok location ∧
      names.foldlM fs.step location = .ok found := by
  simp only [follow] at h
  split_ifs at h
  rw [hparts, List.foldlM_append] at h
  cases hfront : front.foldlM fs.step (fs.origin file) with
  | error error => simp [hfront, bind, Except.bind] at h
  | ok location =>
      rw [hfront] at h
      exact ⟨location, rfl, h⟩

/-- A file name whose parts end in plain names leads to a location that ends in them, and the
front of both does not depend on these names. -/
lemma follow_eq_ok {file : FileName} {front names : List String} {found : Location}
    (hparts : file.parts = front ++ names)
    (hnames : ∀ name ∈ names, Component.ofPart? name = some (.named name))
    (h : fs.follow file = .ok found) :
    ∃ location, front.foldlM fs.step (fs.origin file) = .ok location ∧
      found = location ++ names := by
  obtain ⟨location, hfront, hrest⟩ := exists_foldlM_of_follow hparts h
  exact ⟨location, hfront, foldlM_step_eq_ok hnames hrest⟩

/-- What may be opened can be followed to the location of a file. -/
lemma exists_follow_of_isReadable {file : FileName} (h : fs.isReadable file = true) :
    ∃ location, fs.follow file = .ok location ∧ location ∈ fs.files := by
  simp only [isReadable] at h
  cases hlocate : fs.locate file with
  | error error => simp [hlocate] at h
  | ok location =>
      have hfollow : fs.follow file = .ok location := by
        simp only [locate] at hlocate
        split_ifs at hlocate
        exact hlocate
      refine ⟨location, hfollow, ?_⟩
      simp only [hlocate, entry?] at h
      by_cases hroot : location = []
      · simp [hroot] at h
      · simp only [hroot, ↓reduceIte] at h
        cases hentry : fs.entries[location]? with
        | none => simp [hentry] at h
        | some entry =>
            cases entry with
            | directory => simp [hentry] at h
            | file content =>
                rw [files, List.mem_filterMap]
                exact ⟨(location, .file content),
                  Std.ExtTreeMap.mem_toList_iff_getElem?_eq_some.mpr hentry, rfl⟩

end Filesystem

end BriskModules
