import BriskModules.Module.Path
import BriskModules.Proofs.Module.Identifier
import BriskModules.Proofs.Text.Pieces

/-!
The names that are generated for modules.

The names generated for a module start with its segments, joined by underscores. Since segments may
have underscores themselves, the start tells the words between all underscores but not which of
them belong to one segment: modules can share it, as `collections/ring` and `collections_ring` do.
They do so exactly if they have the same words, which takes an underscore in a segment of the module
that does not lie deeper than the other one.

* `isIdentifier_joined`: identifiers joined by underscores are an identifier;
* `ModulePath.words`, `cut_prefixC`: the words between the underscores;
* `flatMap_cut_eq_self`: segments that are cut into no more pieces are not cut at all;
* `eq_of_words_of_dirs`, `eq_of_words_of_depth`: modules that are told by their words;
* `prefixC_eq_iff_words` (**what generated names tell of a module**).
-/

namespace BriskModules

/-! ### Identifiers joined by underscores -/

/-- What is written like an identifier still is with more letters, digits and underscores. -/
lemma isIdentifierWord_append {word more : List Char} (h : isIdentifierWord word = true)
    (hmore : ∀ c ∈ more, isWordChar c = true) : isIdentifierWord (word ++ more) = true := by
  rw [isIdentifierWord] at h ⊢
  rw [List.dropWhile_append]
  cases hrest : word.dropWhile (fun c => decide (c = '_')) with
  | nil => simp [hrest] at h
  | cons c rest =>
      simp only [hrest, Bool.and_eq_true] at h
      simpa [h.1] using ⟨List.all_eq_true.mp h.2, hmore⟩

/-- Identifiers joined by underscores are an identifier. -/
lemma isIdentifier_joined {first : String} {more : List String}
    (h : ∀ name ∈ first :: more, isIdentifier name = true) :
    isIdentifier (Text.joined "_" (first :: more)) = true := by
  induction more generalizing first with
  | nil => simpa [Text.joined] using h
  | cons next rest ih =>
      have hfirst := h first (.head _)
      have hrest := ih fun name hname => h name (.tail first hname)
      have htext : (Text.joined "_" (first :: next :: rest)).toList =
          first.toList ++ '_' :: (Text.joined "_" (next :: rest)).toList := by
        simp only [show "_" = String.singleton '_' from rfl, Text.toList_joined, List.map_cons]
        rw [List.intercalate_cons_cons, List.append_assoc, List.singleton_append]
      -- the reserved word has no underscore in it
      have hreserved : Text.joined "_" (first :: next :: rest) ≠ reservedWord := by
        intro heq
        have hunderscore : '_' ∈ (Text.joined "_" (first :: next :: rest)).toList := by
          simp [htext]
        rw [heq] at hunderscore
        exact absurd hunderscore (by decide)
      have hword : isIdentifierWord (Text.joined "_" (first :: next :: rest)).toList = true := by
        rw [htext]
        rw [isIdentifier, Bool.and_eq_true] at hfirst
        refine isIdentifierWord_append hfirst.2 (List.forall_mem_cons.mpr ⟨by decide, ?_⟩)
        exact isWordChar_of_isIdentifier hrest
      rw [isIdentifier, hword, Bool.and_true]
      exact decide_eq_true hreserved

/-! ### The words of a module -/

/-- Cutting makes no fewer pieces than there are parts. -/
lemma length_le_flatMap_cut (sep : Char) (parts : List String) :
    parts.length ≤ (parts.flatMap (Text.cut sep)).length := by
  induction parts with
  | nil => simp
  | cons part more ih =>
      have hpart : 0 < (Text.cut sep part).length := by
        rw [Text.cut, List.length_map]
        exact List.length_pos_of_ne_nil (Text.pieces_ne_nil sep _)
      simp only [List.flatMap_cons, List.length_append, List.length_cons]
      omega

/-- If there are no more pieces than parts, no part has been cut. -/
lemma flatMap_cut_eq_self {sep : Char} {parts : List String}
    (h : (parts.flatMap (Text.cut sep)).length ≤ parts.length) :
    parts.flatMap (Text.cut sep) = parts := by
  induction parts with
  | nil => rfl
  | cons part more ih =>
      have hpart := length_le_flatMap_cut sep [part]
      have hmore := length_le_flatMap_cut sep more
      rw [List.flatMap_singleton, List.length_singleton] at hpart
      rw [List.flatMap_cons, List.length_append, List.length_cons] at h
      obtain ⟨piece, hpiece⟩ := List.length_eq_one_iff.mp
        (show (Text.cut sep part).length = 1 by omega)
      have hwhole : part = piece := by
        rw [← Text.joined_cut sep part, hpiece]
        simp [Text.joined]
      rw [List.flatMap_cons, ih (by omega), hpiece, ← hwhole, List.singleton_append]

namespace ModulePath

/-- The words of a module: its segments cut at underscores, one after the other. -/
def words (path : ModulePath) : List String :=
  path.segments.flatMap (Text.cut '_')

variable {path other : ModulePath}

lemma segments_ne_nil (path : ModulePath) : path.segments ≠ [] := by
  simp [segments]

/-- The words of a module are between the underscores of its generated names. -/
lemma cut_prefixC (path : ModulePath) : Text.cut '_' path.prefixC = path.words :=
  Text.cut_joined_eq_flatMap path.segments_ne_nil

/-- The start of generated names tells the words of a module and nothing else. -/
lemma prefixC_eq_iff : path.prefixC = other.prefixC ↔ path.words = other.words := by
  rw [← cut_prefixC, ← cut_prefixC]
  refine ⟨congrArg _, fun hwords => ?_⟩
  rw [← Text.joined_cut '_' path.prefixC, hwords, Text.joined_cut]

/-- Modules of one package with the same words have the same words behind the package. -/
lemma flatMap_cut_of_words (hpackage : path.package = other.package)
    (h : path.words = other.words) :
    (path.dirs ++ [path.file]).flatMap (Text.cut '_') =
      (other.dirs ++ [other.file]).flatMap (Text.cut '_') := by
  have hsplit : ∀ module : ModulePath, module.words =
      module.package.toList.flatMap (Text.cut '_') ++
        (module.dirs ++ [module.file]).flatMap (Text.cut '_') := fun module => by
    rw [words, segments, List.append_assoc, List.flatMap_append]
  rw [hsplit, hsplit, hpackage] at h
  exact List.append_cancel_left h

/-- Modules in one directory are told apart by their words. -/
lemma eq_of_words_of_dirs (hpackage : path.package = other.package) (hdirs : path.dirs = other.dirs)
    (h : path.words = other.words) : path = other := by
  have hwords := flatMap_cut_of_words hpackage h
  simp only [hdirs, List.flatMap_append, List.flatMap_singleton] at hwords
  have hcut : Text.cut '_' path.file = Text.cut '_' other.file := List.append_cancel_left hwords
  have hfile : path.file = other.file := by
    rw [← Text.joined_cut '_' path.file, hcut, Text.joined_cut]
  cases path
  cases other
  simp_all

/-- A module without underscores behind its package is told by its words from all that do not lie
less deep. -/
lemma eq_of_words_of_depth (hpackage : path.package = other.package)
    (hdepth : path.dirs.length ≤ other.dirs.length)
    (hplain : ∀ name ∈ path.dirs ++ [path.file], '_' ∉ name.toList)
    (h : path.words = other.words) : path = other := by
  have hwords := flatMap_cut_of_words hpackage h
  have hself : (path.dirs ++ [path.file]).flatMap (Text.cut '_') = path.dirs ++ [path.file] := by
    calc (path.dirs ++ [path.file]).flatMap (Text.cut '_')
        = (path.dirs ++ [path.file]).flatMap ([·]) :=
          List.flatMap_congr fun name hname => Text.cut_of_notMem (hplain name hname)
      _ = path.dirs ++ [path.file] := List.flatMap_singleton' _
  rw [hself] at hwords
  have hsame : path.dirs ++ [path.file] = other.dirs ++ [other.file] := by
    rw [hwords]
    refine flatMap_cut_eq_self ?_
    rw [← hwords]
    simpa using hdepth
  obtain ⟨hdirs, hfile⟩ := List.append_inj' hsame rfl
  cases path
  cases other
  simp_all

/-- **What generated names tell of a module**: they start with an identifier if the module is
well-formed, and the start is the same for two modules exactly if their words are. So it is
different for different modules of a package if they lie in the same directory, or if one of them
has no underscore in its directories and file and does not lie deeper than the other one. -/
theorem prefixC_eq_iff_words :
    (∀ path : ModulePath, path.WellFormed → isIdentifier path.prefixC = true) ∧
    (∀ path other : ModulePath, path.prefixC = other.prefixC ↔ path.words = other.words) ∧
    ∀ path other : ModulePath, path.package = other.package → path ≠ other →
      (path.dirs = other.dirs ∨ path.dirs.length ≤ other.dirs.length ∧
        ∀ name ∈ path.dirs ++ [path.file], '_' ∉ name.toList) →
      path.prefixC ≠ other.prefixC := by
  refine ⟨fun path hpath => ?_, fun path other => prefixC_eq_iff,
    fun path other hpackage hne hplain hsame => hne ?_⟩
  · obtain ⟨first, more, hsegments⟩ := List.exists_cons_of_ne_nil path.segments_ne_nil
    rw [prefixC, hsegments]
    exact isIdentifier_joined (hsegments ▸ hpath)
  · have hwords := prefixC_eq_iff.mp hsame
    rcases hplain with hdirs | ⟨hdepth, hplain⟩
    · exact eq_of_words_of_dirs hpackage hdirs hwords
    · exact eq_of_words_of_depth hpackage hdepth hplain hwords

/-- The modules `collections/ring` and `collections/fast_ring` of a package have names of their own,
and so have `ring` and `collections/ring`. -/
theorem prefixC_eq_iff_words_ring :
    isIdentifier (prefixC ⟨some "lib", ["collections"], "ring"⟩) = true ∧
    prefixC ⟨some "lib", ["collections"], "ring"⟩ ≠
      prefixC ⟨some "lib", ["collections"], "fast_ring"⟩ ∧
    prefixC ⟨some "lib", [], "ring"⟩ ≠ prefixC ⟨some "lib", ["collections"], "ring"⟩ := by
  obtain ⟨hidentifier, -, hdifferent⟩ := prefixC_eq_iff_words
  exact ⟨hidentifier _ (by decide), hdifferent _ _ rfl (by decide) (.inl rfl),
    hdifferent _ _ rfl (by decide) (.inr ⟨by decide, by decide⟩)⟩

/-- The modules `collections/ring` and `collections_ring` of a package share their generated
names. -/
theorem prefixC_collections_ring :
    WellFormed ⟨some "lib", ["collections"], "ring"⟩ ∧
    WellFormed ⟨some "lib", [], "collections_ring"⟩ ∧
    (⟨some "lib", ["collections"], "ring"⟩ : ModulePath) ≠ ⟨some "lib", [], "collections_ring"⟩ ∧
    prefixC ⟨some "lib", ["collections"], "ring"⟩ =
      prefixC ⟨some "lib", [], "collections_ring"⟩ := by
  decide

end ModulePath

end BriskModules
