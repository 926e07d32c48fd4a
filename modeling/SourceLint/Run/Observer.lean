import SourceLint.Run.Basic

set_option autoImplicit false

/-!
# Observed runs

A run can be observed. Its observer is told how many files were discovered, before any of them is
scanned, and then the result of each file, as soon as that result is delivered. What the observer
has been told is not taken back when a later scan fails.

## Main definitions

* `Observer` — what an observer makes of what it is told.
* `Observer.recorder` — an observer that keeps a record.
* `Pool.deliver` — outcomes delivered one by one.
* `Workspace.outcomes` — the outcomes of scans in the order in which they are delivered.
* `Workspace.observeLogged` — a run over paths with an observer.
* `Workspace.observe` — the same without what is reported.
-/

namespace SourceLint

variable {α σ : Type}

/-- What an observer makes of what it is told; `σ` is all that it has come to know. -/
structure Observer (σ : Type) where
  /-- It is told how many files were discovered. -/
  discovered : Nat → σ → σ
  /-- It is told the result of a file. -/
  done : FileResult → σ → σ

/-- The observer that keeps a record of the numbers and of the results that it is told. -/
def Observer.recorder : Observer (List Nat × List FileResult) where
  discovered count record := (record.1 ++ [count], record.2)
  done result record := (record.1, record.2 ++ [result])

/-- Outcomes delivered one by one, up to the first failure. Each result is told before it is kept
behind those that were kept already. -/
def Pool.deliver (tell : α → σ → σ) (state : σ) (kept : List α) :
    List (Outcome α) → σ × Collected α
  | [] => (state, ⟨kept, none⟩)
  | .error failure :: _ => (state, ⟨kept, some failure⟩)
  | .ok logged :: rest => deliver tell (tell logged.value state) (kept ++ [logged.value]) rest

namespace Workspace

/-- The outcomes of scans in the order in which they are delivered, which is that of the paths. -/
def outcomes (workspace : Workspace) (order : List Nat) (paths : List Path) :
    List (Pool.Outcome FileResult) :=
  if Pool.isSerial workspace.settings.workers paths.length then paths.map workspace.scanFile
  else
    (List.range paths.length).filterMap
      (Pool.outcomeOf? (Pool.fill workspace.scanFile paths order))

/-- A run over paths with an observer, the scans ending in the given order: what the observer knows
in the end, how the run ends, and what it reports. -/
def observeLogged (workspace : Workspace) (observer : Observer σ) (order : Nat → List Nat)
    (paths : List Path) (start : σ) : σ × Except Failure (Logged Summary) :=
  match Discovery.discover workspace.files workspace.settings paths with
  | .error failure => (start, .error failure)
  | .ok found =>
    let files := found.value
    let scans := workspace.scanFiles (order files.length) files
    let told := observer.discovered files.length start
    let delivered :=
      Pool.deliver observer.done told [] (workspace.outcomes (order files.length) files)
    match delivered.2.failure with
    | some failure => (delivered.1, .error failure)
    | none =>
      (delivered.1, .ok ⟨found.events ++ .filesDiscovered files.length :: scans.events,
        .ofResults delivered.2.results⟩)

/-- A run over paths with an observer, the scans ending in the given order: what the observer knows
in the end, and how the run ends. -/
def observe (workspace : Workspace) (observer : Observer σ) (order : Nat → List Nat)
    (paths : List Path) (start : σ) : σ × Except Failure Summary :=
  let observed := workspace.observeLogged observer order paths start
  (observed.1, observed.2.map (·.value))

end Workspace

end SourceLint
