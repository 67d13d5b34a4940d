import BriskModules.Text.Blank
import Mathlib.Data.List.DropRight

/-!
Text without white space around it.

* `Trimmed`: a text neither starts nor ends with white space;
* `trimmed_trim`, `trim_eq_self`: trimming leaves such a text, and leaves it alone;
* `trim_infix`, `head?_trim`: what is left is a part of the text, and starts as it does unless
  that is with white space.
-/

namespace BriskModules.Text

variable {text : List Char} {c : Char}

/-- The text neither starts nor ends with white space. -/
structure Trimmed (text : List Char) : Prop where
  head : ∀ c, text.head? = some c → isBlank c = false
  last : ∀ c, text.getLast? = some c → isBlank c = false

/-- White space is dropped on the left, and then on the right. -/
lemma trim_eq (text : List Char) : trim text = (text.dropWhile isBlank).rdropWhile isBlank := rfl

lemma trim_infix (text : List Char) : trim text <:+: text :=
  (List.rdropWhile_prefix isBlank _).isInfix.trans (List.dropWhile_suffix isBlank).isInfix

/-- A text that does not start with white space starts as before when it is trimmed. -/
lemma head?_trim (hhead : text.head? = some c) (hc : isBlank c = false) :
    (trim text).head? = some c := by
  obtain ⟨rest, rfl⟩ := List.head?_eq_some_iff.mp hhead
  rw [trim_eq, List.dropWhile_cons_of_neg (by simp [hc])]
  have hne : (c :: rest).rdropWhile isBlank ≠ [] := fun hnil => by
    simpa [hc] using List.rdropWhile_eq_nil_iff.mp hnil c (by simp)
  obtain ⟨d, more, hcons⟩ := List.exists_cons_of_ne_nil hne
  have hprefix := List.rdropWhile_prefix isBlank (c :: rest)
  rw [hcons, List.cons_prefix_cons] at hprefix
  rw [hcons, List.head?_cons, hprefix.1]

/-- What is left of a text neither starts nor ends with white space. -/
lemma trimmed_trim (text : List Char) : Trimmed (trim text) := by
  constructor
  · intro c hc
    obtain ⟨rest, hrest⟩ := List.head?_eq_some_iff.mp hc
    obtain ⟨back, hback⟩ := List.rdropWhile_prefix isBlank (text.dropWhile isBlank)
    have hhead : (text.dropWhile isBlank).head? = some c := by
      rw [← hback, ← trim_eq, hrest, List.cons_append, List.head?_cons]
    have hnot := List.head?_dropWhile_not isBlank text
    rwa [hhead] at hnot
  · intro c hc
    have hne : trim text ≠ [] := by
      rintro hnil
      simp [hnil] at hc
    rw [List.getLast?_eq_some_getLast hne] at hc
    have hnot := List.rdropWhile_last_not isBlank (text.dropWhile isBlank) hne
    rw [← Option.some.inj hc]
    exact Bool.eq_false_iff.mpr hnot

/-- A text without white space around it is left alone. -/
lemma trim_eq_self (h : Trimmed text) : trim text = text := by
  have hleft : text.dropWhile isBlank = text := List.dropWhile_eq_self_iff.mpr fun hpos => by
    have hhead : text.head? = some text[0] := by
      rw [List.head?_eq_getElem?, List.getElem?_eq_getElem hpos]
    simp [h.head _ hhead]
  have hright : text.rdropWhile isBlank = text := List.rdropWhile_eq_self_iff.mpr fun hne => by
    simp [h.last _ (List.getLast?_eq_some_getLast hne)]
  rw [trim_eq, hleft, hright]

end BriskModules.Text
