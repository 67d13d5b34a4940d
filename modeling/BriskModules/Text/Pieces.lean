/-!
Text cut at a separator, and put together again.

Module paths, file names, dotted names and search paths are all lists of parts
written with a separator between them. `pieces` cuts a text at every occurrence
of the separator, so that there is one part more than there are separators, and
`String.intercalate` is the way back.

* `pieces_ne_nil`: a text always has at least one part;
* `intercalate_pieces`: cutting loses nothing;
* `pieces_of_notMem`: a text without the separator is its own only part.
-/

namespace BriskModules.Text

/-- The parts of a text between the occurrences of `sep`. -/
def pieces (sep : Char) : List Char → List (List Char)
  | [] => [[]]
  | c :: rest =>
    if c = sep then [] :: pieces sep rest
    else
      match pieces sep rest with
      | [] => [[c]]
      | piece :: more => (c :: piece) :: more

/-- The parts of a string between the occurrences of `sep`. -/
def cut (sep : Char) (text : String) : List String :=
  (pieces sep text.toList).map String.ofList

/-- Words put one after the other with `sep` between two neighbours. -/
def joined (sep : String) (words : List String) : String :=
  sep.intercalate words

/-- There is always a first part. -/
theorem pieces_ne_nil (sep : Char) (text : List Char) : pieces sep text ≠ [] := by
  cases text with
  | nil => simp [pieces]
  | cons c rest =>
    by_cases h : c = sep
    · simp [pieces, h]
    · cases hp : pieces sep rest <;> simp [pieces, h, hp]

/-- A text without the separator is its own only part. -/
theorem pieces_of_notMem {sep : Char} {text : List Char} (h : sep ∉ text) :
    pieces sep text = [text] := by
  induction text with
  | nil => rfl
  | cons c rest ih =>
    have hc : c ≠ sep := fun e => h (by simp [e])
    have hr : sep ∉ rest := fun e => h (by simp [e])
    simp [pieces, hc, ih hr]

/-- Cutting loses nothing. -/
theorem intercalate_pieces (sep : Char) (text : List Char) :
    List.intercalate [sep] (pieces sep text) = text := by
  induction text with
  | nil => rfl
  | cons c rest ih =>
    by_cases h : c = sep
    · cases hp : pieces sep rest with
      | nil => exact absurd hp (pieces_ne_nil sep rest)
      | cons p ps => simp_all [pieces, List.intercalate]
    · cases hp : pieces sep rest with
      | nil => exact absurd hp (pieces_ne_nil sep rest)
      | cons p ps =>
        cases ps with
        | nil => simp_all [pieces, List.intercalate]
        | cons q qs => simp_all [pieces, List.intercalate]

end BriskModules.Text
