import BriskModules.Import.Resolution
import BriskModules.Proofs.Module.Identifier
import Mathlib.Data.List.TakeWhile

/-!
How the names of an import path are read.

* `ImportPath.WellFormed`: all names of an import path are identifiers;
* `readSegments_eq_ok`: the parts that are read as directories and a file are exactly the
  identifiers;
* `wellFormed_of_parse`: reading accepts no other import paths;
* `eq_of_resolve`, `wellFormed_of_resolve`: where an import path leads from a module.
-/

namespace BriskModules

/-- A module path is well-formed if its names are identifiers. -/
lemma ModulePath.wellFormed_of_names {path : ModulePath}
    (hpackage : ∀ package, path.package = some package → isIdentifier package = true)
    (hdirs : ∀ dir ∈ path.dirs, isIdentifier dir = true)
    (hfile : isIdentifier path.file = true) : path.WellFormed := by
  intro segment hsegment
  simp only [segments, List.mem_append, Option.mem_toList, List.mem_singleton] at hsegment
  rcases hsegment with (hsegment | hsegment) | rfl
  · exact hpackage segment hsegment
  · exact hdirs segment hsegment
  · exact hfile

namespace ImportPath

/-- All names of an import path are identifiers. -/
structure WellFormed (path : ImportPath) : Prop where
  package : ∀ name, path.start = .package name → isIdentifier name = true
  dirs : ∀ dir ∈ path.dirs, isIdentifier dir = true
  file : isIdentifier path.file = true

/-- Of two steps the second gives a result only from a result of the first. -/
lemma bind_eq_ok {ε α β : Type} {first : Except ε α} {next : α → Except ε β} {b : β} :
    (first >>= next) = .ok b ↔ ∃ a, first = .ok a ∧ next a = .ok b := by
  cases first <;> simp [bind, Except.bind]

lemma isIdentifier_of_readName {kind : NameKind} {column : ℕ} {ended : Bool}
    {part rest : List Char} {name : String}
    (h : readName kind column ended part = .ok (name, rest)) : isIdentifier name = true := by
  simp only [readName] at h
  split_ifs at h with hempty hidentifier
  obtain ⟨rfl, -⟩ := Prod.mk.inj (Except.ok.inj h)
  exact hidentifier

/-- A name and what is left of the part are the whole part. -/
lemma append_of_readName {kind : NameKind} {column : ℕ} {ended : Bool} {part rest : List Char}
    {name : String} (h : readName kind column ended part = .ok (name, rest)) :
    part = name.toList ++ rest := by
  simp only [readName] at h
  split_ifs at h
  obtain ⟨rfl, rfl⟩ := Prod.mk.inj (Except.ok.inj h)
  simp

/-- A part that is an identifier is read to its end. -/
lemma readName_of_isIdentifier {kind : NameKind} {column : ℕ} {ended : Bool} {name : String}
    (h : isIdentifier name = true) : readName kind column ended name.toList = .ok (name, []) := by
  have hchars := isWordChar_of_isIdentifier h
  have htake : name.toList.takeWhile isWordChar = name.toList :=
    List.takeWhile_eq_self_iff.mpr hchars
  have hdrop : name.toList.dropWhile isWordChar = [] := List.dropWhile_eq_nil_iff.mpr hchars
  simp [readName, htake, hdrop, ne_empty_of_isIdentifier h, h]

/-- The parts that are read as a directory or a file are the identifiers. -/
lemma readSegment_eq_ok {column : ℕ} {ended : Bool} {part : List Char} {name : String} :
    readSegment column ended part = .ok name ↔
      part = name.toList ∧ isIdentifier name = true := by
  constructor
  · intro h
    obtain ⟨⟨first, left⟩, hname, h⟩ := bind_eq_ok.mp h
    cases left with
    | nil =>
        cases h
        exact ⟨by simpa using append_of_readName hname, isIdentifier_of_readName hname⟩
    | cons c more => cases h
  · rintro ⟨rfl, h⟩
    exact bind_eq_ok.mpr ⟨_, readName_of_isIdentifier h, rfl⟩

/-- The parts that are read as directories and a file are identifiers, the last the file. -/
lemma readSegments_eq_ok {column : ℕ} {parts : List (List Char)} {dirs : List String}
    {file : String} : readSegments column parts = .ok (dirs, file) ↔
      parts = (dirs ++ [file]).map String.toList ∧
        (∀ dir ∈ dirs, isIdentifier dir = true) ∧ isIdentifier file = true := by
  induction parts generalizing column dirs with
  | nil => simp [readSegments]
  | cons part more ih =>
      cases more with
      | nil =>
          rw [readSegments, bind_eq_ok]
          simp only [readSegment_eq_ok, pure, Except.pure, Except.ok.injEq, Prod.mk.injEq]
          constructor
          · rintro ⟨_, ⟨rfl, hfile⟩, rfl, rfl⟩
            exact ⟨rfl, by simp, hfile⟩
          · rintro ⟨hparts, -, hfile⟩
            cases dirs with
            | nil => exact ⟨file, ⟨by simpa using hparts, hfile⟩, rfl, rfl⟩
            | cons dir others => simp at hparts
      | cons next rest =>
          rw [readSegments]
          case x_1 => simp
          simp only [bind_eq_ok, readSegment_eq_ok, pure, Except.pure, Except.ok.injEq,
            Prod.mk.injEq, Prod.exists]
          constructor
          · rintro ⟨dir, ⟨rfl, hdir⟩, others, _, hmore, rfl, rfl⟩
            obtain ⟨hrest, hothers, hfile⟩ := ih.mp hmore
            exact ⟨by simpa using hrest, List.forall_mem_cons.mpr ⟨hdir, hothers⟩, hfile⟩
          · rintro ⟨hparts, hdirs, hfile⟩
            cases dirs with
            | nil => simp at hparts
            | cons dir others =>
                obtain ⟨hdir, hothers⟩ := List.forall_mem_cons.mp hdirs
                obtain ⟨hpart, hrest⟩ := List.cons.inj hparts
                exact ⟨dir, ⟨hpart, hdir⟩, others, file, ih.mpr ⟨hrest, hothers, hfile⟩, rfl, rfl⟩

lemma isIdentifier_of_readStart {parts rest : List (List Char)} {start : ImportStart}
    {column : ℕ} (h : readStart parts = .ok (start, column, rest)) :
    ∀ name, start = .package name → isIdentifier name = true := by
  rintro name rfl
  unfold readStart at h
  split at h
  · obtain ⟨⟨first, left⟩, hname, h⟩ := bind_eq_ok.mp h
    simp only at h
    split_ifs at h with hslash
    cases h
    exact isIdentifier_of_readName hname
  · simp at h
  · simp at h
  · split at h <;> simp at h

/-- What is read as an import path is made of identifiers. -/
lemma wellFormed_of_parse {text : String} {path : ImportPath} (h : parse text = .ok path) :
    path.WellFormed := by
  obtain ⟨⟨start, column, parts⟩, hstart, h⟩ := bind_eq_ok.mp h
  obtain ⟨⟨dirs, file⟩, hsegments, h⟩ := bind_eq_ok.mp h
  cases h
  obtain ⟨-, hdirs, hfile⟩ := readSegments_eq_ok.mp hsegments
  exact ⟨isIdentifier_of_readStart hstart, hdirs, hfile⟩

/-! ### Where an import path leads -/

variable {path : ImportPath} {current target : ModulePath}

/-- An import path leads into the package that it names, or below some directories of the
module in whose file it stands. -/
lemma eq_of_resolve (h : path.resolve current = .ok target) :
    (∃ name, path.start = .package name ∧ target = ⟨some name, path.dirs, path.file⟩) ∨
      ∃ kept, target = ⟨current.package, current.dirs.take kept ++ path.dirs, path.file⟩ := by
  obtain ⟨start, dirs, file⟩ := path
  cases start with
  | package name => exact .inl ⟨name, rfl, (Except.ok.inj h).symm⟩
  | root => exact .inr ⟨0, (Except.ok.inj h).symm⟩
  | here => exact .inr ⟨current.dirs.length, by rw [List.take_length, ← Except.ok.inj h]⟩
  | up levels =>
      simp only [resolve] at h
      split_ifs at h
      exact .inr ⟨_, (Except.ok.inj h).symm⟩

/-- From a well-formed module an import path leads to a well-formed one. -/
lemma wellFormed_of_resolve (hpath : path.WellFormed) (hcurrent : current.WellFormed)
    (h : path.resolve current = .ok target) : target.WellFormed := by
  rcases eq_of_resolve h with ⟨name, hstart, rfl⟩ | ⟨kept, rfl⟩
  · refine ModulePath.wellFormed_of_names (fun package hpackage => ?_) hpath.dirs hpath.file
    obtain rfl := Option.some.inj hpackage
    exact hpath.package name hstart
  · refine ModulePath.wellFormed_of_names
      (fun package (hpackage : current.package = some package) => ?_) (fun dir hdir => ?_)
      hpath.file
    · exact hcurrent package (by simp [ModulePath.segments, hpackage])
    · rcases List.mem_append.mp hdir with hdir | hdir
      · exact hcurrent dir (by simp [ModulePath.segments, List.mem_of_mem_take hdir])
      · exact hpath.dirs dir hdir

end ImportPath

end BriskModules
