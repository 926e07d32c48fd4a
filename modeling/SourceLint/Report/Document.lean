import SourceLint.Json.Printer
import SourceLint.Run.Summary

set_option autoImplicit false

/-!
# Reports as documents

The report of a run for other programs: a JSON document with the version of its form, the tool, the
number of files scanned, the diagnostics and the errors. A diagnostic without a note has no such
member.

## Main definitions

* `Diagnostic.toJson` — the record of a diagnostic.
* `Summary.toJson` — the document of a summary.
* `Report.renderDocument` — its text.
-/

namespace SourceLint

/-- The version of the tool. -/
def toolVersion : String := "0.3.0"

/-- The record of a diagnostic. -/
def Diagnostic.toJson (diagnostic : Diagnostic) : Json :=
  .object <|
    [("rule", .string diagnostic.rule), ("message", .string diagnostic.message)] ++
    (match diagnostic.note with
      | some note => [("note", .string note)]
      | none => []) ++
    [("file", .string diagnostic.file), ("line", .number diagnostic.line),
      ("column", .number diagnostic.column), ("text", .string diagnostic.text)]

/-- The record of a file that could not be read or parsed. -/
def FileResult.errorToJson (result : FileResult) : Json :=
  .object [("file", .string result.file), ("language", .ofString? result.language),
    ("error", .ofString? result.error)]

/-- The document of a summary. -/
def Summary.toJson (summary : Summary) : Json :=
  .object [
    ("schema_version", .number 1),
    ("tool", .object [("name", .string "sloplint"), ("version", .string toolVersion)]),
    ("files_scanned", .number summary.filesScanned),
    ("diagnostics", .ofList Diagnostic.toJson summary.diagnostics),
    ("errors", .ofList FileResult.errorToJson summary.errors)]

/-- The text of a summary's document. -/
def Report.renderDocument (summary : Summary) : String :=
  summary.toJson.render

end SourceLint
