import BriskModules.Diagnostic.Format
import BriskModules.Json.Printer

/-!
Reports: diagnostics in the order in which they were made, with a count of the errors and
of the warnings among them.

* `Report.emit` adds a diagnostic and counts it;
* `Report.Counted`: the counts are those of the diagnostics, which adding some keeps true.
-/

namespace BriskModules

/-- The number of diagnostics of a level. -/
def countLevel (level : Level) (diagnostics : List Diagnostic) : Nat :=
  diagnostics.countP (·.level = level)

/-- Diagnostics with the numbers of errors and warnings. -/
structure Report where
  diagnostics : List Diagnostic := []
  errorCount : Nat := 0
  warningCount : Nat := 0
deriving DecidableEq, Repr, Inhabited

namespace Report

/-- A report with one more diagnostic. -/
def emit (report : Report) (diagnostic : Diagnostic) : Report where
  diagnostics := report.diagnostics ++ [diagnostic]
  errorCount := report.errorCount + if diagnostic.level = .error then 1 else 0
  warningCount := report.warningCount + if diagnostic.level = .warning then 1 else 0

/-- A report with several more diagnostics. -/
def extend (report : Report) (diagnostics : List Diagnostic) : Report :=
  diagnostics.foldl emit report

/-- Whether there is an error. -/
def hasErrors (report : Report) : Bool := 0 < report.errorCount

/-- A report as JSON. -/
def toJson (report : Report) : Json :=
  .object [("diagnostics", .array (report.diagnostics.map Diagnostic.toJson))]

/-- How many diagnostics of a kind there were, in words. -/
def countLine (colour : Bool) (level : Level) (count : Nat) : String :=
  if count = 0 then ""
  else
    level.display colour ++ ": " ++ toString count ++ " " ++ level.label ++
      (if count = 1 then "" else "s") ++ " emitted\n"

/-- The numbers of errors and warnings, in words. -/
def summary (colour : Bool) (report : Report) : String :=
  countLine colour .error report.errorCount ++ countLine colour .warning report.warningCount

/-- All diagnostics as text; `source?` gives the text of a file. -/
def display (colour : Bool) (source? : FileName → Option String) (report : Report) : String :=
  String.join <| report.diagnostics.map fun diagnostic =>
    match source? ⟨diagnostic.span.file⟩ with
    | some source => diagnostic.format colour source ++ "\n"
    | none => diagnostic.display colour ++ "\n"

/-- The counts of a report are those of its diagnostics. -/
def Counted (report : Report) : Prop :=
  report.errorCount = countLevel .error report.diagnostics ∧
    report.warningCount = countLevel .warning report.diagnostics

/-- Adding a diagnostic keeps the counts right. -/
theorem Counted.emit {report : Report} (h : report.Counted) (diagnostic : Diagnostic) :
    (report.emit diagnostic).Counted := by
  simp [Counted, Report.emit, countLevel, List.countP_append, List.countP_singleton] at h ⊢
  exact h

/-- Adding diagnostics keeps the counts right. -/
theorem Counted.extend {report : Report} (h : report.Counted) (diagnostics : List Diagnostic) :
    (report.extend diagnostics).Counted := by
  induction diagnostics generalizing report with
  | nil => exact h
  | cons d ds ih => exact ih (h.emit d)

end Report

end BriskModules
