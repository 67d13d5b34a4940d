import BriskModules.Diagnostic.Format
import BriskModules.Proofs.Text.Pieces

/-!
The line of the source that a diagnostic shows, and where the carets below it stand.

Without colour all rows are plain text, so columns can be counted in them. The line stands behind a
gutter with its number. The row of the carets starts with as many blanks as the gutter is wide
without the bar, and then has blanks for the gutter once more.

* `notMem_of_mem_lines`: a line is one row;
* `Diagnostic.gutter`: what stands in front of a line that is shown;
* `toList_snippet`: the three rows of a snippet;
* `numberWidth_le`, `indent_lt`: in machine words the blanks can be counted as well, unless the
  column is one of the last;
* `sourceLine?_eq_some_iff`: which line is shown, if any;
* `format_snippet` (**which line is shown, and what is below it**);
* `format_caretsApart`: the carets do not stand below the characters at fault.
-/

namespace BriskModules

/-- A line has no line feed in it. -/
lemma Text.notMem_of_mem_lines {text line : List Char} (h : line ∈ lines text) : '\n' ∉ line := by
  have hreturn : ∀ part : List Char, withoutReturn part ⊆ part := by
    intro part
    rw [withoutReturn]
    split_ifs
    · exact List.dropLast_subset part
    · exact List.Subset.refl part
  have hended : ∀ part ∈ (pieces '\n' text).dropLast.map withoutReturn, '\n' ∉ part := by
    intro part hpart hfeed
    obtain ⟨piece, hpiece, rfl⟩ := List.mem_map.mp hpart
    exact notMem_of_mem_pieces (List.mem_of_mem_dropLast hpiece) (hreturn piece hfeed)
  rw [lines] at h
  split at h
  · exact hended line h
  · exact hended line h
  · rename_i rest _ hrest
    rcases List.mem_append.mp h with h | h
    · exact hended line h
    · rw [List.mem_singleton.mp h]
      exact notMem_of_mem_pieces (List.mem_of_getLast? hrest)

namespace Diagnostic

variable {diagnostic : Diagnostic} {span : Span} {source : String} {line : List Char}

/-- What stands in front of a line that is shown: its number, set to the right, and a bar. -/
def gutter (number : ℕ) : List Char :=
  ' ' :: (toString number).toList.leftpad (numberWidth number) ' ' ++ " | ".toList

/-- The row below a line that is shown, with the carets behind some blanks. -/
def marks (indent count : ℕ) : List Char :=
  List.replicate indent ' ' ++ List.replicate count '^'

lemma length_gutter (number : ℕ) : (gutter number).length = numberWidth number + 4 := by
  have hwidth : (toString number).toList.length ≤ numberWidth number := by
    rw [String.length_toList, numberWidth]
    exact Nat.le_max_right 2 _
  simp only [gutter, List.length_cons, List.length_append, List.length_leftpad]
  simp only [Nat.max_eq_left hwidth]
  rfl

/-- The first caret is where the blanks end. -/
lemma idxOf_marks (indent : ℕ) {count : ℕ} (h : 1 ≤ count) :
    (marks indent count).idxOf '^' = indent := by
  obtain ⟨more, rfl⟩ := Nat.exists_eq_add_of_le' h
  rw [marks, List.idxOf_append_of_notMem (by simp), List.replicate_succ, List.idxOf_cons_self]
  simp

lemma toList_blanks (count : ℕ) : (blanks count).toList = List.replicate count ' ' :=
  String.toList_ofList

lemma toList_lineNumber (number : ℕ) :
    (lineNumber number).toList = (toString number).toList.leftpad (numberWidth number) ' ' := by
  rw [lineNumber, String.toList_append, toList_blanks, List.leftpad, String.length_toList]

/-- The three rows of a snippet: blanks, the line behind its gutter, and the carets. -/
lemma toList_snippet (span : Span) (line : List Char) :
    (snippet false span (String.ofList line)).toList =
      [List.replicate (numberWidth span.line + 2) ' ', gutter span.line ++ line,
        marks ((gutter span.line).length + (span.column - 1) + (numberWidth span.line + 2))
          (max 1 span.length)].flatMap (· ++ ['\n']) := by
  have hindent : ' ' :: (List.replicate (numberWidth span.line + 1) ' ' ++
      ' ' :: List.replicate (numberWidth span.line + 3 + (span.column - 1)) ' ') =
      List.replicate
        ((gutter span.line).length + (span.column - 1) + (numberWidth span.line + 2)) ' ' := by
    rw [List.eq_replicate_iff, length_gutter]
    constructor
    · simp only [List.length_cons, List.length_append, List.length_replicate]
      omega
    · simp
  have hblank : " ".toList = [' '] := by simp
  have hfeed : "\n".toList = ['\n'] := by simp
  have hbar : "|".toList = ['|'] := by simp
  unfold snippet
  simp only [Text.paint_off, String.toList_append, toList_blanks, toList_lineNumber, carets,
    String.toList_ofList, hblank, hfeed, hbar]
  simp only [marks, ← hindent]
  simp [gutter, List.replicate_succ]

/-- The number of a line is at most as wide as the largest machine word. -/
lemma numberWidth_le {number : ℕ} (h : number < 2 ^ 64) : numberWidth number ≤ 20 :=
  max_le (by decide) (Nat.repr_length number 20 (by decide) (h.trans (by decide)))

/-- The number of blanks in front of the carets is a machine word. -/
lemma indent_lt (hline : span.line < 2 ^ 64) (hcolumn : span.column < 2 ^ 64 - 22) :
    numberWidth span.line + 3 + (span.column - 1) < 2 ^ 64 := by
  have hwidth := numberWidth_le hline
  omega

/-- The line that is shown is the one with the number of the span. -/
lemma sourceLine?_eq_some_iff {text : String} : diagnostic.sourceLine? source = some text ↔
    1 ≤ diagnostic.span.line ∧
      (Text.lines source.toList)[diagnostic.span.line - 1]? = some text.toList := by
  rw [sourceLine?]
  split_ifs with hline
  · simp [hline]
  · rw [Option.map_eq_some_iff]
    constructor
    · rintro ⟨line, hshown, rfl⟩
      exact ⟨Nat.one_le_iff_ne_zero.mpr hline, by rw [hshown, String.toList_ofList]⟩
    · rintro ⟨-, hshown⟩
      exact ⟨text.toList, hshown, String.ofList_toList⟩

/-- What comes behind the header starts a row. -/
lemma getLast?_header (diagnostic : Diagnostic) :
    (diagnostic.header false).toList.getLast? = some '\n' := by
  unfold header
  rw [String.toList_append, List.getLast?_append_of_ne_nil _ (by simp)]
  simp

/-- A diagnostic is shown as its header, the rows of the line, and its notes and help. -/
lemma toList_format (hline : 1 ≤ diagnostic.span.line)
    (h : (Text.lines source.toList)[diagnostic.span.line - 1]? = some line) :
    (diagnostic.format false source).toList = (diagnostic.header false).toList ++
      (snippet false diagnostic.span (String.ofList line)).toList ++
        (diagnostic.trailer false).toList := by
  have hshown : diagnostic.sourceLine? source = some (String.ofList line) :=
    sourceLine?_eq_some_iff.mpr ⟨hline, by rw [h, String.toList_ofList]⟩
  rw [format, hshown, String.toList_append, String.toList_append]

/-- Without a line to show, a diagnostic is shown as it is without the source. -/
lemma format_eq_display (h : diagnostic.sourceLine? source = none) :
    diagnostic.format false source = diagnostic.display false := by
  rw [format, h, display, String.append_empty]

/-- A line is shown exactly if the source has one with the number of the span. -/
lemma format_ne_display_iff : diagnostic.format false source ≠ diagnostic.display false ↔
    1 ≤ diagnostic.span.line ∧ diagnostic.span.line ≤ (Text.lines source.toList).length := by
  constructor
  · intro hne
    cases hshown : diagnostic.sourceLine? source with
    | none => exact absurd (format_eq_display hshown) hne
    | some text =>
        obtain ⟨hline, hline'⟩ := sourceLine?_eq_some_iff.mp hshown
        obtain ⟨hlt, -⟩ := List.getElem?_eq_some_iff.mp hline'
        exact ⟨hline, by omega⟩
  · rintro ⟨hline, hle⟩ heq
    have hlt : diagnostic.span.line - 1 < (Text.lines source.toList).length := by omega
    have hformat := toList_format hline (List.getElem?_eq_getElem hlt)
    rw [heq, display, String.toList_append, List.append_assoc,
      List.append_cancel_left_eq] at hformat
    have hlength := congrArg List.length hformat
    rw [List.length_append, toList_snippet] at hlength
    simp only [List.flatMap_cons, List.length_append, List.length_replicate] at hlength
    omega

/-- **Which line is shown, and what is below it**: a source line is shown exactly if the source has
a line with the number of the span, and it is this line, as a row of its own behind the gutter. In
the row below stands a run of carets as long as the span, and of one caret at least; it starts
further to the right than the character in the column of the span, and this by the width of the line
number and two columns more. -/
theorem format_snippet (diagnostic : Diagnostic) (source : String) :
    let span := diagnostic.span
    let lines := Text.lines source.toList
    (diagnostic.format false source ≠ diagnostic.display false ↔
      1 ≤ span.line ∧ span.line ≤ lines.length) ∧
    (diagnostic.header false).toList.getLast? = some '\n' ∧
    ∀ line, 1 ≤ span.line → lines[span.line - 1]? = some line → '\n' ∉ line ∧ ∃ below : List Char,
      (diagnostic.format false source).toList = (diagnostic.header false).toList ++
        [List.replicate (numberWidth span.line + 2) ' ', gutter span.line ++ line, below].flatMap
          (· ++ ['\n']) ++ (diagnostic.trailer false).toList ∧
      below = marks (below.idxOf '^') (max 1 span.length) ∧
      below.idxOf '^' =
        (gutter span.line).length + (span.column - 1) + (numberWidth span.line + 2) := by
  intro span lines
  refine ⟨format_ne_display_iff, getLast?_header diagnostic, fun line hline hshown => ⟨?_, ?_⟩⟩
  · exact Text.notMem_of_mem_lines (List.mem_of_getElem? hshown)
  · have hcarets := idxOf_marks
      ((gutter span.line).length + (span.column - 1) + (numberWidth span.line + 2))
      (Nat.le_max_left 1 span.length)
    exact ⟨_, by rw [toList_format hline hshown, toList_snippet], by rw [hcarets], hcarets⟩

/-- The import in the second line of a source, and the error about its path. -/
def strayImport : Diagnostic × String :=
  (.error "E0602" "import ascends outside the source root" ⟨"a.brk", 2, 10, 6⟩,
    "module exposes f\nimport m \"../x\"\n")

/-- The line with the import is shown, and six carets below it, from the twentieth column on. -/
theorem format_snippet_strayImport :
    let (diagnostic, source) := strayImport
    diagnostic.format false source ≠ diagnostic.display false ∧
    ∃ below : List Char,
      (diagnostic.format false source).toList = (diagnostic.header false).toList ++
        [List.replicate 4 ' ', "  2 | import m \"../x\"".toList, below].flatMap (· ++ ['\n']) ++
          (diagnostic.trailer false).toList ∧
      below.idxOf '^' = 19 := by
  obtain ⟨hshown, -, hlines⟩ := format_snippet strayImport.1 strayImport.2
  obtain ⟨-, below, hformat, -, hcaret⟩ :=
    hlines "import m \"../x\"".toList (by decide) (by decide +kernel)
  have hrow : gutter strayImport.1.span.line ++ "import m \"../x\"".toList =
      "  2 | import m \"../x\"".toList := by decide
  rw [hrow] at hformat
  exact ⟨hshown.mpr (by decide +kernel), below, hformat, hcaret.trans (by decide)⟩

/-- The path is shown from the sixteenth column on, and the carets do not start there. -/
theorem format_caretsApart :
    let rows := Text.pieces '\n' (strayImport.1.format false strayImport.2).toList
    (rows[3]?.map fun shown => shown.idxOf '"') = some 15 ∧
      (rows[4]?.map fun below => below.idxOf '^') = some 19 := by
  decide +kernel

end Diagnostic

end BriskModules
