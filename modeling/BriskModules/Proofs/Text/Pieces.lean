import BriskModules.Text.Pieces
import Mathlib.Tactic

/-!
Cutting a text at a separator, and joining the parts again.

* `pieces_append_sep`, `cut_append_sep`: a separator ends a part;
* `pieces_ended`, `intercalate_concat`, `intercalate_append_cons`: parts with a separator behind
  each, or before each;
* `cut_joined_eq_flatMap`, `joined_cut`: what is joined is cut, and what is cut is joined again;
* `joined_concat`, `joined_concat_append`: a part more is joined, and more is put behind the last;
* `pieces_intercalate`, `cut_joined`: parts without separators are found again;
* `notMem_of_mem_cut`, `length_le_of_mem_pieces`: a part has no separator in it, and is no longer
  than the text;
* `exists_mem_pieces_iff`: any other character of a text is in one of its parts.
-/

namespace BriskModules

namespace Text

variable {sep : Char}

/-- A separator ends a part. -/
lemma pieces_append_sep (before after : List Char) :
    pieces sep (before ++ sep :: after) = pieces sep before ++ pieces sep after := by
  induction before with
  | nil => simp [pieces]
  | cons c more ih =>
      by_cases hc : c = sep
      · simp [pieces, hc, ih]
      · cases hmore : pieces sep more with
        | nil => exact absurd hmore (pieces_ne_nil sep more)
        | cons piece rest => simp [pieces, hc, ih, hmore]

/-- Joined texts are cut where they are joined, and where each of them is cut by itself. -/
lemma pieces_intercalate_eq_flatMap {parts : List (List Char)} (hne : parts ≠ []) :
    pieces sep ([sep].intercalate parts) = parts.flatMap (pieces sep) := by
  induction parts with
  | nil => exact absurd rfl hne
  | cons part more ih =>
      cases more with
      | nil => simp
      | cons next rest =>
          rw [List.intercalate_cons_cons, List.append_assoc, List.singleton_append,
            pieces_append_sep, ih (by simp)]
          rfl

/-- A text of parts without separators is cut into these parts. -/
lemma pieces_intercalate {parts : List (List Char)} (hne : parts ≠ [])
    (h : ∀ part ∈ parts, sep ∉ part) : pieces sep ([sep].intercalate parts) = parts := by
  calc pieces sep ([sep].intercalate parts)
      = parts.flatMap (pieces sep) := pieces_intercalate_eq_flatMap hne
    _ = parts.flatMap ([·]) := List.flatMap_congr fun part hpart => pieces_of_notMem (h part hpart)
    _ = parts := List.flatMap_singleton' parts

/-- Parts that a separator ends are cut off the front of a text. -/
lemma pieces_ended {parts : List (List Char)} (h : ∀ part ∈ parts, sep ∉ part)
    (rest : List Char) :
    pieces sep (parts.flatMap (· ++ [sep]) ++ rest) = parts ++ pieces sep rest := by
  induction parts with
  | nil => rfl
  | cons part more ih =>
      have hpart := pieces_of_notMem (h part (.head more))
      have hmore := ih fun other hother => h other (.tail part hother)
      rw [List.flatMap_cons, List.append_assoc, List.append_assoc, List.singleton_append,
        pieces_append_sep, hpart, hmore, List.singleton_append, List.cons_append]

/-- Joined parts are the parts before the last with a separator behind each, and the last. -/
lemma intercalate_concat (parts : List (List Char)) (last : List Char) :
    [sep].intercalate (parts ++ [last]) = parts.flatMap (· ++ [sep]) ++ last := by
  induction parts with
  | nil => simp
  | cons part more ih =>
      obtain ⟨next, rest, hmore⟩ := List.exists_cons_of_ne_nil (l := more ++ [last]) (by simp)
      rw [List.cons_append, hmore, List.intercalate_cons_cons, ← hmore, ih]
      simp

/-- A text continues after a separator-free beginning in its first part. -/
lemma pieces_append_of_notMem {front : List Char} (h : sep ∉ front)
    (rest : List Char) :
    ∃ part more, pieces sep (front ++ rest) = (front ++ part) :: more := by
  induction front with
  | nil =>
      obtain ⟨part, more, hparts⟩ := List.exists_cons_of_ne_nil (pieces_ne_nil sep rest)
      exact ⟨part, more, hparts⟩
  | cons c others ih =>
      rw [List.mem_cons, not_or] at h
      obtain ⟨part, more, hparts⟩ := ih h.2
      exact ⟨part, more, by simp [pieces, Ne.symm h.1, hparts]⟩

/-- Joined parts are one of them, the parts in front with a separator behind each, and the parts
behind with a separator before each. -/
lemma intercalate_append_cons (front : List (List Char)) (part : List Char)
    (back : List (List Char)) :
    [sep].intercalate (front ++ part :: back) =
      front.flatMap (· ++ [sep]) ++ part ++ back.flatMap (sep :: ·) := by
  induction front with
  | nil =>
      induction back generalizing part with
      | nil => simp
      | cons next more ih =>
          have hmore := ih next
          simp only [List.nil_append, List.flatMap_nil] at hmore ⊢
          rw [List.intercalate_cons_cons, hmore]
          simp
  | cons first more ih =>
      obtain ⟨next, rest, hrest⟩ := List.exists_cons_of_ne_nil (l := more ++ part :: back) (by simp)
      rw [List.cons_append, hrest, List.intercalate_cons_cons, ← hrest, ih]
      simp

/-- No part has a separator in it. -/
lemma notMem_of_mem_pieces {text piece : List Char} (h : piece ∈ pieces sep text) :
    sep ∉ piece := by
  induction text generalizing piece with
  | nil => simp_all [pieces]
  | cons c rest ih =>
      by_cases hc : c = sep
      · rw [pieces, if_pos hc, List.mem_cons] at h
        rcases h with rfl | h
        · simp
        · exact ih h
      · cases hrest : pieces sep rest with
        | nil => exact absurd hrest (pieces_ne_nil sep rest)
        | cons first more =>
            simp only [pieces, hc, ↓reduceIte, hrest, List.mem_cons] at h
            rcases h with rfl | h
            · have hfirst : sep ∉ first := ih (by simp [hrest])
              simp [Ne.symm hc, hfirst]
            · exact ih (by simp [hrest, h])

/-- No part is longer than the text. -/
lemma length_le_of_mem_pieces {text piece : List Char} (h : piece ∈ pieces sep text) :
    piece.length ≤ text.length := by
  induction text generalizing piece with
  | nil => simp_all [pieces]
  | cons c rest ih =>
      rw [List.length_cons]
      by_cases hc : c = sep
      · rw [pieces, if_pos hc, List.mem_cons] at h
        rcases h with rfl | h
        · simp
        · exact (ih h).trans (Nat.le_succ _)
      · cases hrest : pieces sep rest with
        | nil => exact absurd hrest (pieces_ne_nil sep rest)
        | cons first more =>
            simp only [pieces, hc, ↓reduceIte, hrest, List.mem_cons] at h
            rcases h with rfl | h
            · have hfirst : first.length ≤ rest.length := ih (by simp [hrest])
              simpa using hfirst
            · exact (ih (by simp [hrest, h])).trans (Nat.le_succ _)

/-- Any other character of a text is in one of its parts. -/
lemma exists_mem_pieces_iff {text : List Char} {c : Char} (hc : c ≠ sep) :
    (∃ piece ∈ pieces sep text, c ∈ piece) ↔ c ∈ text := by
  induction text with
  | nil => simp [pieces]
  | cons d rest ih =>
      rw [List.mem_cons, ← ih]
      by_cases hd : d = sep
      · simp [pieces, hd, hc]
      · cases hrest : pieces sep rest with
        | nil => exact absurd hrest (pieces_ne_nil sep rest)
        | cons first more => simp [pieces, hd, hrest, or_assoc]

lemma cut_append_sep (before after : String) :
    cut sep (before ++ String.singleton sep ++ after) = cut sep before ++ cut sep after := by
  simp [cut, pieces_append_sep]

lemma cut_of_notMem {text : String} (h : sep ∉ text.toList) : cut sep text = [text] := by
  simp [cut, pieces_of_notMem h]

lemma toList_joined (parts : List String) :
    (joined (String.singleton sep) parts).toList = [sep].intercalate (parts.map String.toList) := by
  simp [joined, String.toList_intercalate]

/-- Joined texts are cut where they are joined, and where each of them is cut by itself. -/
lemma cut_joined_eq_flatMap {parts : List String} (hne : parts ≠ []) :
    cut sep (joined (String.singleton sep) parts) = parts.flatMap (cut sep) := by
  rw [cut, toList_joined, pieces_intercalate_eq_flatMap (by simpa using hne), List.flatMap_map,
    List.map_flatMap]
  rfl

variable (sep) in
/-- What has been cut is joined to the same text again. -/
lemma joined_cut (text : String) : joined (String.singleton sep) (cut sep text) = text := by
  rw [← String.toList_inj, toList_joined, cut, List.map_map]
  simp [Function.comp_def, intercalate_pieces]

variable (sep) in
/-- One more part is joined behind a separator. -/
lemma joined_concat {parts : List String} (hne : parts ≠ []) (last : String) :
    joined (String.singleton sep) (parts ++ [last]) =
      joined (String.singleton sep) parts ++ String.singleton sep ++ last := by
  rw [joined, String.intercalate_append_of_ne_nil hne (by simp), String.intercalate_singleton]
  rfl

variable (sep) in
/-- What is put behind the last part is put behind the joined text. -/
lemma joined_concat_append (front : List String) (last more : String) :
    joined (String.singleton sep) (front ++ [last ++ more]) =
      joined (String.singleton sep) (front ++ [last]) ++ more := by
  by_cases hfront : front = []
  · subst hfront
    simp [joined]
  · rw [joined_concat sep hfront, joined_concat sep hfront]
    simp only [String.append_assoc]

/-- Parts without separators are found again in the text that joins them. -/
lemma cut_joined {parts : List String} (hne : parts ≠ [])
    (h : ∀ part ∈ parts, sep ∉ part.toList) :
    cut sep (joined (String.singleton sep) parts) = parts := by
  rw [cut, toList_joined, pieces_intercalate (by simpa using hne)]
  · simp
  · intro part hpart
    obtain ⟨text, htext, rfl⟩ := List.mem_map.mp hpart
    exact h text htext

lemma notMem_of_mem_cut {text part : String} (h : part ∈ cut sep text) : sep ∉ part.toList := by
  obtain ⟨piece, hpiece, rfl⟩ := List.mem_map.mp h
  simpa using notMem_of_mem_pieces hpiece

end Text

end BriskModules
