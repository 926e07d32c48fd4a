import SourceLint.Run.File
import SourceLint.Run.Pool

set_option autoImplicit false

/-!
# Runs

A run discovers the files that its paths stand for, scans them, and summarises the results. The
results come in the order of discovery, however many workers there are.

## Main definitions

* `Workspace.scanFiles` — the results of files, by one worker or by a pool.
* `RunOutcome` — what a run gives.
* `Workspace.run` — a run over paths.
-/

namespace SourceLint

/-- What a run gives: the number of files discovered, the results in the order in which they were
announced, and the summary. -/
structure RunOutcome where
  discovered : Nat
  done : List FileResult
  summary : Summary

namespace Workspace

/-- The results of files. With several workers the scans end in the given order of their numbers,
which has no influence on the results. -/
def scanFiles (workspace : Workspace) (order : List Nat) (paths : List Path) :
    Logged (Pool.Collected FileResult) :=
  if Pool.isSerial workspace.settings.workers paths.length then
    Pool.runSerially workspace.scanFile paths
  else Pool.run workspace.scanFile paths order

/-- A run over paths, the scans ending in the given order. -/
def runInOrder (workspace : Workspace) (order : Nat → List Nat) (paths : List Path) :
    Except Failure (Logged RunOutcome) := do
  let found ← Discovery.discover workspace.files workspace.settings paths
  let files := found.value
  let scanned := workspace.scanFiles (order files.length) files
  match scanned.value.failure with
  | some failure => .error failure
  | none =>
    let results := scanned.value.results
    return ⟨found.events ++ .filesDiscovered files.length :: scanned.events,
      { discovered := files.length, done := results, summary := .ofResults results }⟩

/-- A run over paths, the scans ending in the order in which they were submitted. -/
def run (workspace : Workspace) (paths : List Path) : Except Failure (Logged RunOutcome) :=
  workspace.runInOrder List.range paths

end Workspace

end SourceLint
