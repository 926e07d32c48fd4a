import SourceLint.Report.Console
import SourceLint.Run.Summary
import SourceLint.Text.Decimal

set_option autoImplicit false

/-!
# Reports for the terminal

The report of a run for people: the diagnostics grouped by file, files in the order in which they
first appear and diagnostics in the order in which they were found, and then their number. Without
diagnostics there is nothing to report.

## Main definitions

* `Report.groupByFile` — diagnostics by file.
* `Report.renderTerminal` — the text of a report.
-/

namespace SourceLint.Report

/-- Groups with one more diagnostic: in the group of its file, or in a new one behind the others. -/
def addToGroups : List (String × List Diagnostic) → Diagnostic → List (String × List Diagnostic)
  | [], diagnostic => [(diagnostic.file, [diagnostic])]
  | (file, group) :: groups, diagnostic =>
    if file = diagnostic.file then (file, group ++ [diagnostic]) :: groups
    else (file, group) :: addToGroups groups diagnostic

/-- Diagnostics by file, files in the order in which they first appear. -/
def groupByFile (diagnostics : List Diagnostic) : List (String × List Diagnostic) :=
  diagnostics.foldl addToGroups []

/-- The lines of a diagnostic: what was found where, the text if there is any, and the note if notes
are wanted and there is one. -/
def diagnosticLines (notes : Bool) (diagnostic : Diagnostic) : List (List StyledRun) :=
  let place := Text.decimal diagnostic.line ++ ":" ++ Text.decimal diagnostic.column
  [[.plain "  ", .styled .gray place, .plain "  ", .styled .yellow "warning",
    .plain ("  " ++ diagnostic.message ++ "  "), .styled .cyan diagnostic.rule]] ++
  (if diagnostic.text.isEmpty then [] else [[.styled .gray ("  > " ++ diagnostic.text)]]) ++
  (match diagnostic.note with
    | some note =>
      if notes && !note.isEmpty then [[.styled .dim ("    → " ++ note)]] else []
    | none => [])

/-- The lines of a file: an empty one, its name, and its diagnostics. -/
def fileLines (notes : Bool) (group : String × List Diagnostic) : List (List StyledRun) :=
  [[], [.styled .bold group.1]] ++ group.2.flatMap (diagnosticLines notes)

/-- The words for a number of diagnostics. -/
def countText (count : Nat) : String :=
  "⚠ " ++ Text.decimal count ++ " problem" ++ (if count = 1 then "" else "s")

/-- The lines of a report. -/
def terminalLines (notes : Bool) (diagnostics : List Diagnostic) : List (List StyledRun) :=
  if diagnostics.isEmpty then []
  else
    (groupByFile diagnostics).flatMap (fileLines notes) ++
      [[], [.styled .boldYellow (countText diagnostics.length)]]

/-- The text of a report on a console, in colours or without. -/
def renderTerminal (console : Console) (color notes : Bool) (summary : Summary) : String :=
  String.join ((terminalLines notes summary.diagnostics).map (console.line color))

end SourceLint.Report
