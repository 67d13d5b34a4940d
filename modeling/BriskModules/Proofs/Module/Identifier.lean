import BriskModules.Module.Identifier
import Mathlib.Tactic

/-!
What identifiers are made of.

* `isWordChar_of_isIdentifier`, `exists_cons_of_isIdentifier`: an identifier has only letters,
  digits and underscores, and at least one of them;
* `notMem_of_isIdentifier`: it has no other character, such as a slash or a dot.
-/

namespace BriskModules

/-- All characters of an identifier are letters, digits or underscores. -/
lemma isWordChar_of_isIdentifier {text : String} (h : isIdentifier text = true) :
    ∀ c ∈ text.toList, isWordChar c = true := by
  simp only [isIdentifier, Bool.and_eq_true] at h
  have hword := h.2
  rw [isIdentifierWord] at hword
  intro c hc
  rw [← List.takeWhile_append_dropWhile (p := fun c => decide (c = '_')) (l := text.toList),
    List.mem_append] at hc
  rcases hc with hc | hc
  · have hunderscore := List.all_eq_true.mp List.all_takeWhile c hc
    simp_all [isWordChar]
  · cases hrest : text.toList.dropWhile (fun c => decide (c = '_')) with
    | nil => simp [hrest] at hc
    | cons first rest =>
        simp only [hrest, Bool.and_eq_true] at hword
        rw [hrest, List.mem_cons] at hc
        rcases hc with rfl | hc
        · simp [isWordChar, Char.isAlphanum, hword.1]
        · exact List.all_eq_true.mp hword.2 c hc

lemma ne_empty_of_isIdentifier {text : String} (h : isIdentifier text = true) : text ≠ "" := by
  rintro rfl
  simp [isIdentifier, isIdentifierWord] at h

/-- An identifier begins with one of these characters. -/
lemma exists_cons_of_isIdentifier {text : String} (h : isIdentifier text = true) :
    ∃ c rest, text.toList = c :: rest ∧ isWordChar c = true := by
  obtain ⟨c, rest, hc⟩ := List.exists_cons_of_ne_nil (l := text.toList)
    (by simpa using ne_empty_of_isIdentifier h)
  exact ⟨c, rest, hc, isWordChar_of_isIdentifier h c (by simp [hc])⟩

lemma notMem_of_isIdentifier {text : String} {c : Char} (h : isIdentifier text = true)
    (hc : isWordChar c = false) : c ∉ text.toList := by
  intro hmem
  simp [isWordChar_of_isIdentifier h c hmem] at hc

end BriskModules
