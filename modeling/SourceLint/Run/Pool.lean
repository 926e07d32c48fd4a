import SourceLint.Failure
import SourceLint.Log.Logged

set_option autoImplicit false

/-!
# Pools of workers

The jobs of a run may be done by several workers at once. Each job writes its outcome into a slot of
its own, in whatever order the jobs happen to end; the outcomes are then read in the order in which
the jobs were submitted, up to the first failure. So the order in which jobs end shows only in the
order of the events.

## Main definitions

* `Pool.size` — the number of workers for some jobs.
* `Pool.Slots` — the outcomes of the jobs that have ended.
* `Pool.EndOrder` — the order in which jobs end.
* `Pool.collect` — the outcomes in the order of submission.
* `Pool.run` — jobs done by a pool, ending in a given order.
* `Pool.runSerially` — jobs done one after the other.
-/

namespace SourceLint.Pool

variable {α β : Type}

/-- The outcome of a job. -/
abbrev Outcome (α : Type) := Except Failure (Logged α)

/-- What is left after jobs: the results up to the first failure, and that failure. -/
structure Collected (α : Type) where
  results : List α
  failure : Option Failure

/-- The outcomes of jobs in order, up to the first failure. -/
def collect : List (Outcome α) → Collected α
  | [] => ⟨[], none⟩
  | .error failure :: _ => ⟨[], some failure⟩
  | .ok logged :: rest =>
    let collected := collect rest
    ⟨logged.value :: collected.results, collected.failure⟩

/-- The events of jobs, in the order of their outcomes. -/
def eventsOf (outcomes : List (Outcome α)) : List Event :=
  outcomes.flatMap fun outcome =>
    match outcome with
    | .ok logged => logged.events
    | .error _ => []

/-- Jobs done one after the other, up to the first failure. -/
def runSerially (job : β → Outcome α) : List β → Logged (Collected α)
  | [] => ⟨[], ⟨[], none⟩⟩
  | item :: items =>
    match job item with
    | .error failure => ⟨[], ⟨[], some failure⟩⟩
    | .ok logged =>
      let others := runSerially job items
      ⟨logged.events ++ others.events,
        ⟨logged.value :: others.value.results, others.value.failure⟩⟩

/-- The outcomes of the jobs that have ended, by the number of the job. -/
abbrev Slots (α : Type) := List (Nat × Outcome α)

/-- The slots after jobs have ended in an order. -/
def fill (job : β → Outcome α) (items : List β) (order : List Nat) : Slots α :=
  order.filterMap fun i => items[i]?.map fun item => (i, job item)

/-- The outcome in the slot of a job. -/
def outcomeOf? (slots : Slots α) (i : Nat) : Option (Outcome α) :=
  (slots.find? (·.1 == i)).map (·.2)

/-- Jobs done by a pool, ending in the given order. -/
def run (job : β → Outcome α) (items : List β) (order : List Nat) : Logged (Collected α) :=
  let slots := fill job items order
  ⟨eventsOf (slots.map (·.2)),
    collect ((List.range items.length).filterMap (outcomeOf? slots))⟩

/-- The order in which jobs end, told for every number of jobs; every job ends. -/
structure EndOrder where
  order : Nat → List Nat
  mem_order : ∀ jobs, ∀ i < jobs, i ∈ order jobs

/-- The jobs end in the order in which they were submitted. -/
def EndOrder.submitted : EndOrder where
  order := List.range
  mem_order _ _ h := List.mem_range.2 h

/-- The number of workers for some jobs: at least one, and no more than there are jobs. -/
def size (workers : Int) (jobs : Nat) : Int :=
  min (max 1 workers) jobs

/-- Whether jobs are done one after the other: when there is only one worker or one job. -/
def isSerial (workers : Int) (jobs : Nat) : Bool :=
  workers ≤ 1 || jobs ≤ 1

end SourceLint.Pool
