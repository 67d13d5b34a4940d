import BriskModules.Proofs.Import.Grammar

/-!
Module paths as texts, and texts as imports.

The text of a well-formed module path is an import path with the same names: one that starts
at the root of the package if there is one, and in the own directory, without a mark, if there
is none. So a module path is read back from its text, and from any module the same text, or
with a slash in front the text without the package, leads to it.

* `ModulePath.lead`, `ModulePath.asImport`: what a module path is as an import path;
* `spelt_text_asImport`, `spelt_text_root`: how the text of a module path is put together;
* `parse_text`, `wellFormed_of_parse`: a well-formed module path is read back from its text,
  and nothing else is read;
* `text_roundTrip` (**texts name modules wherever they stand**).
-/

namespace BriskModules.ModulePath

open Grammar

variable {path current : ModulePath} {text : String}

/-- The start of the text of a module path. -/
def lead (path : ModulePath) : List Char :=
  match path.package with
  | some package => '@' :: (package.toList ++ ['/'])
  | none => []

/-- The import path that is written like a module path. -/
def asImport (path : ModulePath) : ImportPath :=
  ⟨path.package.elim .here .package, path.dirs, path.file⟩

lemma toList_text (path : ModulePath) :
    path.text.toList = path.lead ++ ImportPath.body path.dirs path.file := by
  rw [ModulePath.text, String.toList_append, ImportPath.body_eq, ← Text.toList_joined, lead]
  cases path.package <;> simp

/-- The names of a well-formed module path are identifiers. -/
lemma WellFormed.names (h : path.WellFormed) :
    (∀ package, path.package = some package → package.toList ∈ identifier) ∧
      (∀ dir ∈ path.dirs, dir.toList ∈ identifier) ∧ path.file.toList ∈ identifier := by
  refine ⟨fun package hpackage => ?_, fun dir hdir => ?_, ?_⟩ <;>
    refine mem_identifier.mpr (h _ ?_) <;> simp_all [segments]

/-- The text of a well-formed module path is put together as an import path. -/
lemma spelt_text_asImport (h : path.WellFormed) :
    path.asImport.Spelt path.lead path.text.toList := by
  obtain ⟨hpackage, hdirs, hfile⟩ := h.names
  refine ⟨?_, hdirs, hfile, path.toList_text⟩
  rw [asImport, lead]
  cases hcase : path.package with
  | none => exact .bare
  | some package => exact .package (hpackage package hcase)

/-- With a slash in front, the text of a module path without its package is put together as one
that starts at the root. -/
lemma spelt_text_root (h : path.WellFormed) :
    ImportPath.Spelt ⟨.root, path.dirs, path.file⟩ ['/']
      ("/" ++ path.withoutPackage.text).toList := by
  obtain ⟨-, hdirs, hfile⟩ := h.names
  refine ⟨.root, hdirs, hfile, ?_⟩
  rw [String.toList_append, toList_text]
  rfl

/-- A module path without a package does not look like one with a mark for the own
directory. -/
lemma not_isPrefixOf_text (h : path.WellFormed) (hpackage : path.package = none) :
    "./".toList.isPrefixOf path.text.toList = false := by
  obtain ⟨-, hdirs, hfile⟩ := h.names
  obtain ⟨c, rest, hbody, hc⟩ := ImportPath.exists_body_eq hdirs hfile
  rw [toList_text, lead, hpackage, List.nil_append, hbody]
  have hne : '.' ≠ c := by
    rintro rfl
    cases hc
  simp [List.isPrefixOf, hne]

/-- A well-formed module path is read back from its text. -/
lemma parse_text (h : path.WellFormed) : ModulePath.parse path.text = .ok path := by
  have hread := ImportPath.parse_of_spelt (spelt_text_asImport h)
  cases hpackage : path.package with
  | none =>
      have hmark := not_isPrefixOf_text h hpackage
      rw [asImport, hpackage, Option.elim_none] at hread
      rw [ModulePath.parse, hread]
      simp only [hmark, Bool.false_eq_true, ↓reduceIte, ← hpackage]
  | some package =>
      rw [asImport, hpackage, Option.elim_some] at hread
      rw [ModulePath.parse, hread]
      simp only [← hpackage]

/-- What is read as a module path is well-formed, and is written as it was read. -/
lemma wellFormed_of_parse (h : ModulePath.parse text = .ok path) :
    path.WellFormed ∧ path.text = text := by
  rw [ModulePath.parse] at h
  cases hread : ImportPath.parse text with
  | error error => simp [hread] at h
  | ok read =>
      obtain ⟨front, hspelt⟩ := ImportPath.spelt_of_parse hread
      have hnames := ImportPath.wellFormed_of_parse hread
      obtain ⟨start, dirs, file⟩ := read
      have hfront := hspelt.start
      cases start with
      | package name =>
          simp only [hread, Except.ok.injEq] at h
          subst h
          refine ⟨wellFormed_of_names (fun _ hpackage => ?_) hnames.dirs hnames.file, ?_⟩
          · exact hnames.package _ (by rw [Option.some.inj hpackage])
          · cases hfront
            rw [← String.toList_inj, toList_text, hspelt.text_eq]
            rfl
      | here =>
          simp only [hread] at h
          split_ifs at h with hmark
          cases h
          refine ⟨wellFormed_of_names (by simp) hnames.dirs hnames.file, ?_⟩
          cases hfront with
          | marked =>
              rw [hspelt.text_eq, List.isPrefixOf_iff_prefix] at hmark
              exact absurd (List.prefix_append _ _) hmark
          | bare =>
              rw [← String.toList_inj, toList_text, hspelt.text_eq]
              rfl
      | root => simp [hread] at h
      | up levels => simp [hread] at h

/-- A text of an import path leads where the import path leads. -/
lemma resolveImport_of_spelt {read : ImportPath} {front : List Char}
    (h : read.Spelt front text.toList) (htarget : read.resolve current = .ok path) :
    resolveImport current text = .ok path := by
  rw [resolveImport, ImportPath.parse_of_spelt h]
  simp only [htarget]

/-- **Texts name modules wherever they stand**: exactly the texts of well-formed module paths
are read, each as the module path it is the text of, so different modules have different texts;
from every module, the text of a module in a package is an import of it, and so is, from the
modules of its package, its text without the package behind a slash. -/
theorem text_roundTrip :
    (∀ path : ModulePath, path.WellFormed → ModulePath.parse path.text = .ok path) ∧
    (∀ text path, ModulePath.parse text = .ok path → path.WellFormed ∧ path.text = text) ∧
    Set.InjOn ModulePath.text {path | path.WellFormed} ∧
    ∀ path current : ModulePath, path.WellFormed →
      (path.package.isSome = true → resolveImport current path.text = .ok path) ∧
      (path.package = current.package →
        resolveImport current ("/" ++ path.withoutPackage.text) = .ok path) := by
  refine ⟨fun _ => parse_text, fun _ _ => wellFormed_of_parse,
    fun path hpath other hother heq => ?_, fun path current hpath => ⟨fun hpackage => ?_,
      fun hpackage => ?_⟩⟩
  · have hread := parse_text hpath
    rw [heq, parse_text hother] at hread
    exact (Except.ok.inj hread).symm
  · refine resolveImport_of_spelt (spelt_text_asImport hpath) ?_
    obtain ⟨package, hsome⟩ := Option.isSome_iff_exists.mp hpackage
    simp only [ImportPath.resolve, asImport, hsome, Option.elim_some]
    rw [← hsome]
  · refine resolveImport_of_spelt (spelt_text_root hpath) ?_
    simp only [ImportPath.resolve, ← hpackage]

/-- `@plant/io/adc` is read and imported from anywhere, and `/io/adc` from its package. -/
theorem text_roundTrip_adc :
    WellFormed ⟨some "plant", ["io"], "adc"⟩ ∧
    ModulePath.parse "@plant/io/adc" = .ok ⟨some "plant", ["io"], "adc"⟩ ∧
    resolveImport ⟨none, ["x", "y"], "main"⟩ "@plant/io/adc" =
      .ok ⟨some "plant", ["io"], "adc"⟩ ∧
    resolveImport ⟨some "plant", ["x", "y"], "main"⟩ "/io/adc" =
      .ok ⟨some "plant", ["io"], "adc"⟩ := by
  have hpath : WellFormed ⟨some "plant", ["io"], "adc"⟩ := by decide
  obtain ⟨hparse, -, -, himport⟩ := text_roundTrip
  exact ⟨hpath, hparse _ hpath, (himport _ _ hpath).1 rfl, (himport _ _ hpath).2 rfl⟩

end BriskModules.ModulePath
