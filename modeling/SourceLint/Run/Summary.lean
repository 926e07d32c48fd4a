import SourceLint.Diagnostic

set_option autoImplicit false

/-!
# Results and their summary

The result of a file says whether it was skipped, could not be read or parsed, or was scanned. A
summary counts the files scanned, and keeps their diagnostics and the results in error, both in
order.

## Main definitions

* `FileResult` — the result of one file.
* `Summary` — the summary of a run.
* `Summary.ofResults` — the summary of results.
-/

namespace SourceLint

/-- The result of one file. -/
structure FileResult where
  file : String
  /-- The language of the file, unless it was skipped. -/
  language : Option String := none
  diagnostics : List Diagnostic := []
  /-- Why the file could not be read or parsed. -/
  error : Option String := none
  /-- Whether the file is in no enabled language. -/
  skipped : Bool := false
deriving DecidableEq, Repr

/-- The summary of a run. -/
structure Summary where
  filesScanned : Int
  diagnostics : List Diagnostic
  errors : List FileResult
deriving DecidableEq, Repr

namespace FileResult

/-- Whether the file was scanned. -/
def isScanned (result : FileResult) : Bool :=
  !result.skipped && result.error.isNone

/-- Whether the file was to be scanned and could not be. -/
def isFailed (result : FileResult) : Bool :=
  !result.skipped && result.error.isSome

end FileResult

namespace Summary

/-- The summary of no results. -/
def nil : Summary := ⟨0, [], []⟩

/-- A summary with one more result. -/
def add (summary : Summary) (result : FileResult) : Summary :=
  if result.skipped then summary
  else if result.error.isSome then { summary with errors := summary.errors ++ [result] }
  else
    { summary with
      filesScanned := summary.filesScanned + 1
      diagnostics := summary.diagnostics ++ result.diagnostics }

/-- The summary of results. -/
def ofResults (results : List FileResult) : Summary :=
  results.foldl add nil

/-- Whether anything was found. -/
def hasDiagnostics (summary : Summary) : Bool :=
  !summary.diagnostics.isEmpty

end Summary

end SourceLint
