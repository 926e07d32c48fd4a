import Mathlib.Data.List.Basic
import Mathlib.Data.List.Forall2
import Mathlib.Logic.Relation
import SourceLint.Run.Basic

set_option autoImplicit false

/-!
# Schedules of a pool

A pool has a number of workers and a queue of jobs. At any moment a worker that is free may pick up
a job that is still queued, or a worker may finish the job that it does; meanwhile the results are
delivered in the order of submission, each as soon as its job has ended. When the result to be
delivered next is a failure, nothing is delivered any more and jobs that are still queued may be
cancelled. Which of this happens next is left open, and a schedule is any sequence of such steps.

All schedules deliver the same results and end with the same failure: those of the serial loop,
which does the jobs one after the other up to the first failure. No schedule goes on forever, and
none gets stuck before it has come to an end.

## Main definitions

* `Pool.Collects` — the results of jobs up to the first failure, and that failure.
* `Pool.Moment` — a pool at work.
* `Pool.Step` — what may happen next.
* `Pool.Reachable` — the moments of all schedules.
* `Pool.Moment.Ended` — nothing is left to do.

## Main results

* `Pool.collects_runSerially` — the serial loop stops at the first failure.
* `Pool.value_run` — the order in which jobs end has no influence.
* `Pool.Step.sound`, `Pool.Reachable.sound` — the invariant of a pool at work.
* `Pool.Sound.exists_step`, `Pool.Step.remaining_lt` — schedules neither get stuck nor go on for
  ever.
* `Workspace.scanFiles_refines_serial` — scans by a pool and scans one after the other.
-/

namespace SourceLint

namespace Pool

variable {α β : Type} {job : β → Outcome α} {items : List β}

/-! ### The serial loop -/

/-- The job of an item ends with a result. -/
def Gives (job : β → Outcome α) (item : β) (result : α) : Prop :=
  ∃ events, job item = .ok ⟨events, result⟩

/-- What is left after jobs: the results of all of them, or the results of those before the first
one that fails, and its failure. -/
def Collects (job : β → Outcome α) (items : List β) (collected : Collected α) : Prop :=
  match collected.failure with
  | none => List.Forall₂ (Gives job) items collected.results
  | some failure =>
    ∃ before item after, items = before ++ item :: after ∧
      List.Forall₂ (Gives job) before collected.results ∧ job item = .error failure

/-- A job in front that ends with a result adds that result. -/
lemma Collects.cons_ok {item : β} {logged : Logged α} {collected : Collected α}
    (hitem : job item = .ok logged) (h : Collects job items collected) :
    Collects job (item :: items) ⟨logged.value :: collected.results, collected.failure⟩ := by
  obtain ⟨results, failure⟩ := collected
  have hgives : Gives job item logged.value := ⟨logged.events, hitem⟩
  cases failure with
  | none => exact List.Forall₂.cons hgives h
  | some failure =>
    obtain ⟨before, failed, after, rfl, hbefore, hfailed⟩ := h
    exact ⟨item :: before, failed, after, rfl, List.Forall₂.cons hgives hbefore, hfailed⟩

/-- The serial loop collects the results up to the first failure. -/
lemma collects_runSerially (job : β → Outcome α) (items : List β) :
    Collects job items (runSerially job items).value := by
  induction items with
  | nil => exact List.Forall₂.nil
  | cons item items ih =>
    rw [runSerially]
    cases hitem : job item with
    | error failure => exact ⟨[], item, items, rfl, List.Forall₂.nil, hitem⟩
    | ok logged => exact Collects.cons_ok hitem ih

/-- There is only one way to collect results, so it is that of the serial loop. -/
lemma Collects.eq_runSerially {collected : Collected α} (h : Collects job items collected) :
    collected = (runSerially job items).value := by
  induction items generalizing collected with
  | nil =>
    obtain ⟨results, _ | failure⟩ := collected
    · obtain rfl : results = [] := List.forall₂_nil_left_iff.1 h
      rfl
    · obtain ⟨before, item, after, hitems, -⟩ := h
      simp at hitems
  | cons item items ih =>
    obtain ⟨results, _ | failure⟩ := collected
    · obtain ⟨result, rest, ⟨events, hitem⟩, hrest, rfl⟩ := List.forall₂_cons_left_iff.1 h
      have hserial := @ih ⟨rest, none⟩ hrest
      simp [runSerially, hitem, ← hserial]
    · obtain ⟨before, failed, after, hitems, hbefore, hfailed⟩ := h
      cases before with
      | nil =>
        obtain ⟨rfl, rfl⟩ : item = failed ∧ items = after := by simpa using hitems
        obtain rfl : results = [] := List.forall₂_nil_left_iff.1 hbefore
        simp [runSerially, hfailed]
      | cons first before =>
        obtain ⟨rfl, rfl⟩ : item = first ∧ items = before ++ failed :: after := by
          simpa using hitems
        obtain ⟨result, rest, ⟨events, hitem⟩, hrest, rfl⟩ := List.forall₂_cons_left_iff.1 hbefore
        have hserial := @ih ⟨rest, some failure⟩
          ⟨before, failed, after, rfl, hrest, hfailed⟩
        simp [runSerially, hitem, ← hserial]

/-! ### The order in which jobs end -/

/-- The slot of a job is filled when the job has ended. -/
lemma outcomeOf?_fill (order : List Nat) (i : Nat) :
    outcomeOf? (fill job items order) i = if i ∈ order then items[i]?.map job else none := by
  induction order with
  | nil => rfl
  | cons k order ih =>
    unfold fill at ih ⊢
    rw [List.filterMap_cons]
    cases hk : items[k]? with
    | none =>
      simp only [Option.map_none]
      rw [ih]
      by_cases hi : i = k
      · subst hi
        simp [hk]
      · simp [hi]
    | some item =>
      by_cases hi : k = i
      · subst hi
        simp [outcomeOf?, hk]
      · have hne : ¬ i = k := fun h => hi h.symm
        simpa [outcomeOf?, hi, hne] using ih

/-- Every job before an index ends with a result, so that nothing keeps the job at this index from
being done. -/
def ReachedBy (job : β → Outcome α) (items : List β) (i : Nat) : Prop :=
  ∀ j < i, ∀ item, items[j]? = some item → ∃ logged, job item = .ok logged

/-- Outcomes may be missing behind the first failure. -/
lemma collect_filterMap (ended : Nat → Bool)
    (h : ∀ i < items.length, ReachedBy job items i → ended i = true) :
    collect ((List.range items.length).filterMap fun i =>
      if ended i then items[i]?.map job else none) = (runSerially job items).value := by
  induction items generalizing ended with
  | nil => rfl
  | cons item items ih =>
    have hfirst : ended 0 = true := h 0 (by simp) fun j hj => absurd hj (Nat.not_lt_zero j)
    rw [List.length_cons, List.range_succ_eq_map, List.filterMap_cons]
    simp only [hfirst, if_true, List.getElem?_cons_zero, Option.map_some, List.filterMap_map,
      Function.comp_def, List.getElem?_cons_succ]
    cases hitem : job item with
    | error failure => simp [collect, runSerially, hitem]
    | ok logged =>
      have hrest := ih (fun i => ended (i + 1)) fun i hi hreached => by
        apply h (i + 1) (by simpa using hi)
        intro j hj other hother
        cases j with
        | zero =>
          obtain rfl : item = other := by simpa using hother
          exact ⟨logged, hitem⟩
        | succ j => exact hreached j (by omega) other (by simpa using hother)
      simp [collect, runSerially, hitem, hrest]

/-- The order in which jobs end has no influence on what is collected, as long as all jobs up to the
first failure do end. -/
lemma value_run {order : List Nat}
    (h : ∀ i < items.length, ReachedBy job items i → i ∈ order) :
    (run job items order).value = (runSerially job items).value := by
  have hslots : (fun i => outcomeOf? (fill job items order) i) =
      fun i => if decide (i ∈ order) then items[i]?.map job else none := by
    funext i
    simp [outcomeOf?_fill]
  rw [← collect_filterMap (fun i => decide (i ∈ order)) (by simpa using h), ← hslots]
  rfl

/-! ### A pool at work -/

/-- A moment of a pool at work: the jobs that are still queued, those that are being done, the slots
of those that have ended, the results delivered and announced so far, and the failure that ended
the delivery. -/
structure Moment (α : Type) where
  queued : List Nat
  running : List Nat
  slots : Slots α
  delivered : List α
  failure : Option Failure

namespace Moment

/-- Before the first step all jobs are queued. -/
def start (jobs : Nat) : Moment α :=
  ⟨List.range jobs, [], [], [], none⟩

/-- The order in which jobs have ended. -/
def order (m : Moment α) : List Nat :=
  m.slots.map (·.1)

/-- What has been collected: the results delivered, and the failure behind them. -/
def collected (m : Moment α) : Collected α :=
  ⟨m.delivered, m.failure⟩

/-- Nothing is left to do: no job is queued or being done, and all results have been delivered
unless a failure came before. -/
def Ended (jobs : Nat) (m : Moment α) : Prop :=
  m.queued = [] ∧ m.running = [] ∧ (m.failure = none → m.delivered.length = jobs)

/-- A bound on the steps that may still follow. -/
def remaining (jobs : Nat) (m : Moment α) : Nat :=
  2 * m.queued.length + m.running.length + (jobs - m.delivered.length) +
    (if m.failure.isSome then 0 else 1)

end Moment

/-- What may happen next in a pool with some workers. -/
inductive Step (job : β → Outcome α) (items : List β) (workers : Int) : Moment α → Moment α → Prop
  /-- A free worker picks up any job that is queued. -/
  | pickUp (m : Moment α) (i : Nat) (hqueued : i ∈ m.queued) (hfree : m.running.length < workers) :
    Step job items workers m { m with queued := m.queued.erase i, running := i :: m.running }
  /-- A worker finishes its job, whatever the outcome. -/
  | finish (m : Moment α) (i : Nat) (item : β) (hrunning : i ∈ m.running)
      (hitem : items[i]? = some item) :
    Step job items workers m
      { m with running := m.running.erase i, slots := m.slots ++ [(i, job item)] }
  /-- The next result is delivered. -/
  | deliver (m : Moment α) (logged : Logged α) (hopen : m.failure = none)
      (hslot : outcomeOf? m.slots m.delivered.length = some (.ok logged)) :
    Step job items workers m { m with delivered := m.delivered ++ [logged.value] }
  /-- In the place of the next result there is a failure. -/
  | fail (m : Moment α) (failure : Failure) (hopen : m.failure = none)
      (hslot : outcomeOf? m.slots m.delivered.length = some (.error failure)) :
    Step job items workers m { m with failure := some failure }
  /-- After a failure a job that is still queued is cancelled. -/
  | cancel (m : Moment α) (i : Nat) (hfailed : m.failure.isSome = true) (hqueued : i ∈ m.queued) :
    Step job items workers m { m with queued := m.queued.erase i }

/-- The moments that a schedule can lead to. -/
def Reachable (job : β → Outcome α) (items : List β) (workers : Int) (m : Moment α) : Prop :=
  Relation.ReflTransGen (Step job items workers) (.start items.length) m

/-! ### What every schedule keeps -/

/-- The invariant of a pool at work. -/
structure Sound (job : β → Outcome α) (items : List β) (m : Moment α) : Prop where
  /-- Only submitted jobs are queued or being done. -/
  submitted : ∀ i, i ∈ m.queued ∨ i ∈ m.running → i < items.length
  /-- Slots hold the outcomes of their jobs. -/
  filled : ∀ slot ∈ m.slots, items[slot.1]?.map job = some slot.2
  /-- No job is lost, except after a failure. -/
  placed : m.failure = none → ∀ i < items.length, i ∈ m.queued ∨ i ∈ m.running ∨ i ∈ m.order
  /-- Results are delivered in the order of submission. -/
  delivered : List.Forall₂ (Gives job) (items.take m.delivered.length) m.delivered
  /-- Jobs whose results have been delivered have ended. -/
  ended : ∀ i < m.delivered.length, i ∈ m.order
  /-- The failure is the outcome of the job behind them. -/
  failed : ∀ failure, m.failure = some failure →
    m.delivered.length ∈ m.order ∧ items[m.delivered.length]?.map job = some (.error failure)

/-- The slot of a job holds its outcome. -/
lemma Sound.eq_of_outcomeOf? {m : Moment α} (h : Sound job items m) {i : Nat} {outcome : Outcome α}
    (hslot : outcomeOf? m.slots i = some outcome) :
    i ∈ m.order ∧ items[i]?.map job = some outcome := by
  obtain ⟨slot, hfind, rfl⟩ := Option.map_eq_some_iff.1 hslot
  have hmem := List.mem_of_find?_eq_some hfind
  have hi : slot.1 = i := by simpa using List.find?_some hfind
  exact ⟨List.mem_map.2 ⟨slot, hmem, hi⟩, hi ▸ h.filled slot hmem⟩

/-- A job that has ended has a slot. -/
lemma exists_outcomeOf? {m : Moment α} {i : Nat} (h : i ∈ m.order) :
    ∃ outcome, outcomeOf? m.slots i = some outcome := by
  obtain ⟨slot, hmem, rfl⟩ := List.mem_map.1 h
  have hsome : (m.slots.find? fun other => other.1 == slot.1).isSome = true :=
    List.find?_isSome.2 ⟨slot, hmem, by simp⟩
  obtain ⟨found, hfound⟩ := Option.isSome_iff_exists.1 hsome
  exact ⟨found.2, by simp [outcomeOf?, hfound]⟩

/-- The next result is that of the job behind those whose results have been delivered. -/
lemma Sound.delivered_concat {m : Moment α} (h : Sound job items m) {logged : Logged α}
    (hitem : items[m.delivered.length]?.map job = some (.ok logged)) :
    List.Forall₂ (Gives job) (items.take (m.delivered.length + 1))
      (m.delivered ++ [logged.value]) := by
  obtain ⟨item, hget, hjob⟩ := Option.map_eq_some_iff.1 hitem
  rw [List.take_add_one, hget]
  exact List.rel_append h.delivered (.cons ⟨logged.events, hjob⟩ .nil)

/-- The invariant holds before the first step. -/
lemma sound_start (job : β → Outcome α) (items : List β) :
    Sound job items (.start items.length) where
  submitted := by simp [Moment.start]
  filled := by simp [Moment.start]
  placed := fun _ _ hi => .inl (List.mem_range.2 hi)
  delivered := by simp [Moment.start]
  ended := by simp [Moment.start]
  failed := by simp [Moment.start]

/-- Every step keeps the invariant. -/
lemma Step.sound {workers : Int} {m m' : Moment α} (hstep : Step job items workers m m')
    (h : Sound job items m) : Sound job items m' := by
  cases hstep with
  | pickUp i hqueued hfree =>
    refine { h with submitted := ?_, placed := ?_ }
    · rintro j (hj | hj)
      · exact h.submitted j (.inl (List.mem_of_mem_erase hj))
      · rcases List.mem_cons.1 hj with rfl | hj
        · exact h.submitted j (.inl hqueued)
        · exact h.submitted j (.inr hj)
    · intro hopen j hj
      rcases h.placed hopen j hj with hwaits | hworks | hdone
      · by_cases hij : j = i
        · exact .inr (.inl (hij ▸ List.mem_cons_self))
        · exact .inl ((List.mem_erase_of_ne hij).2 hwaits)
      · exact .inr (.inl (List.mem_cons_of_mem _ hworks))
      · exact .inr (.inr hdone)
  | finish i item hrunning hitem =>
    have horder : ∀ j ∈ m.order, j ∈ (m.slots ++ [(i, job item)]).map (·.1) := by
      intro j hj
      rw [List.map_append]
      exact List.mem_append_left _ hj
    refine ⟨?_, ?_, ?_, h.delivered, fun j hj => horder j (h.ended j hj), ?_⟩
    · rintro j (hj | hj)
      · exact h.submitted j (.inl hj)
      · exact h.submitted j (.inr (List.mem_of_mem_erase hj))
    · intro slot hslot
      rcases List.mem_append.1 hslot with hslot | hslot
      · exact h.filled slot hslot
      · obtain rfl := List.mem_singleton.1 hslot
        simp [hitem]
    · intro hopen j hj
      rcases h.placed hopen j hj with hwaits | hworks | hdone
      · exact .inl hwaits
      · by_cases hij : j = i
        · exact .inr (.inr (by simp [Moment.order, hij]))
        · exact .inr (.inl ((List.mem_erase_of_ne hij).2 hworks))
      · exact .inr (.inr (horder j hdone))
    · intro failure hfailure
      obtain ⟨hmem, hjob⟩ := h.failed failure hfailure
      exact ⟨horder _ hmem, hjob⟩
  | deliver logged hopen hslot =>
    obtain ⟨hmem, hitem⟩ := h.eq_of_outcomeOf? hslot
    refine { h with delivered := ?_, ended := ?_, failed := ?_ }
    · simpa using h.delivered_concat hitem
    · intro i hi
      have hi : i < m.delivered.length + 1 := by simpa using hi
      rcases Nat.lt_succ_iff_lt_or_eq.1 hi with hi | rfl
      · exact h.ended i hi
      · exact hmem
    · intro failure hfailure
      rw [hopen] at hfailure
      simp at hfailure
  | fail failure hopen hslot =>
    refine { h with placed := by simp, failed := ?_ }
    rintro other ⟨⟩
    exact h.eq_of_outcomeOf? hslot
  | cancel i hfailed hqueued =>
    refine { h with submitted := ?_, placed := ?_ }
    · rintro j (hj | hj)
      · exact h.submitted j (.inl (List.mem_of_mem_erase hj))
      · exact h.submitted j (.inr hj)
    · intro hopen
      rw [hopen] at hfailed
      simp at hfailed

/-- Every schedule keeps the invariant. -/
lemma Reachable.sound {workers : Int} {m : Moment α} (h : Reachable job items workers m) :
    Sound job items m := by
  induction h with
  | refl => exact sound_start job items
  | tail _ hstep ih => exact hstep.sound ih

/-! ### Where schedules end -/

/-- No more results are delivered than there are jobs. -/
lemma Sound.length_delivered_le {m : Moment α} (h : Sound job items m) :
    m.delivered.length ≤ items.length := by
  have hlength := h.delivered.length_eq
  rw [List.length_take] at hlength
  omega

/-- Every step leaves fewer steps to come. -/
lemma Step.remaining_lt {workers : Int} {m m' : Moment α} (hstep : Step job items workers m m')
    (h : Sound job items m) : m'.remaining items.length < m.remaining items.length := by
  cases hstep with
  | pickUp i hqueued hfree =>
    have hlength := List.length_erase_of_mem hqueued
    have hpos := List.length_pos_of_mem hqueued
    simp only [Moment.remaining, List.length_cons, hlength]
    omega
  | finish i item hrunning hitem =>
    have hlength := List.length_erase_of_mem hrunning
    have hpos := List.length_pos_of_mem hrunning
    simp only [Moment.remaining, hlength]
    omega
  | deliver logged hopen hslot =>
    obtain ⟨item, hget, -⟩ := Option.map_eq_some_iff.1 (h.eq_of_outcomeOf? hslot).2
    obtain ⟨hlt, -⟩ := List.getElem?_eq_some_iff.1 hget
    simp only [Moment.remaining, List.length_append, List.length_singleton]
    omega
  | fail failure hopen hslot =>
    simp [Moment.remaining, hopen]
  | cancel i hfailed hqueued =>
    have hlength := List.length_erase_of_mem hqueued
    have hpos := List.length_pos_of_mem hqueued
    simp only [Moment.remaining, hlength]
    omega

/-- No schedule goes on forever. -/
lemma not_exists_endless {workers : Int} :
    ¬ ∃ moments : Nat → Moment α, moments 0 = .start items.length ∧
      ∀ n, Step job items workers (moments n) (moments (n + 1)) := by
  rintro ⟨moments, hstart, hstep⟩
  have hsound : ∀ n, Sound job items (moments n) := by
    intro n
    induction n with
    | zero => exact hstart ▸ sound_start job items
    | succ n ih => exact (hstep n).sound ih
  have hdrop : ∀ n,
      (moments n).remaining items.length + n ≤ (moments 0).remaining items.length := by
    intro n
    induction n with
    | zero => exact Nat.le_refl _
    | succ n ih =>
      have hlt := (hstep n).remaining_lt (hsound n)
      omega
  have hend := hdrop ((moments 0).remaining items.length + 1)
  omega

/-- A schedule goes on until all is done: a job that is being done can be finished; else a queued
one can be picked up; else the next outcome is in its slot. -/
lemma Sound.exists_step {workers : Int} {m : Moment α} (h : Sound job items m)
    (hworkers : items ≠ [] → 1 ≤ workers) (hopen : ¬ m.Ended items.length) :
    ∃ m', Step job items workers m m' := by
  cases hrunning : m.running with
  | cons i others =>
    have hmem : i ∈ m.running := hrunning ▸ List.mem_cons_self
    have hlt := h.submitted i (.inr hmem)
    exact ⟨_, .finish m i items[i] hmem (List.getElem?_eq_getElem hlt)⟩
  | nil =>
    cases hqueued : m.queued with
    | cons i others =>
      have hmem : i ∈ m.queued := hqueued ▸ List.mem_cons_self
      have hlt := h.submitted i (.inl hmem)
      have hpos : 1 ≤ workers := hworkers (List.ne_nil_of_length_pos (by omega))
      exact ⟨_, .pickUp m i hmem (by simp only [hrunning, List.length_nil]; omega)⟩
    | nil =>
      have hfailure : m.failure = none := by
        by_contra hfailed
        exact hopen ⟨hqueued, hrunning, fun hnone => absurd hnone hfailed⟩
      have hlt : m.delivered.length < items.length := by
        apply Nat.lt_of_le_of_ne h.length_delivered_le
        intro hall
        exact hopen ⟨hqueued, hrunning, fun _ => hall⟩
      have hnext : m.delivered.length ∈ m.order := by
        simpa [hqueued, hrunning] using h.placed hfailure _ hlt
      obtain ⟨outcome, hslot⟩ := exists_outcomeOf? hnext
      cases outcome with
      | ok logged => exact ⟨_, .deliver m logged hfailure hslot⟩
      | error failure => exact ⟨_, .fail m failure hfailure hslot⟩

/-- At the end of a schedule the results up to the first failure have been delivered. -/
lemma Sound.collects {m : Moment α} (h : Sound job items m) (hended : m.Ended items.length) :
    Collects job items m.collected := by
  cases hfailure : m.failure with
  | none =>
    have hall := h.delivered
    rw [hended.2.2 hfailure, List.take_length] at hall
    simpa [Collects, Moment.collected, hfailure] using hall
  | some failure =>
    obtain ⟨item, hget, hjob⟩ := Option.map_eq_some_iff.1 (h.failed failure hfailure).2
    obtain ⟨hlt, hitem⟩ := List.getElem?_eq_some_iff.1 hget
    have hsplit : items = items.take m.delivered.length ++
        item :: items.drop (m.delivered.length + 1) := by
      rw [← hitem, List.getElem_cons_drop, List.take_append_drop]
    simp only [Collects, Moment.collected, hfailure]
    exact ⟨_, item, _, hsplit, h.delivered, hjob⟩

/-- At the end of a schedule all jobs up to the first failure have ended. -/
lemma Sound.mem_order {m : Moment α} (h : Sound job items m) (hended : m.Ended items.length)
    {i : Nat} (hi : i < items.length) (hreached : ReachedBy job items i) : i ∈ m.order := by
  cases hfailure : m.failure with
  | none => simpa [hended.1, hended.2.1] using h.placed hfailure i hi
  | some failure =>
    obtain ⟨hmem, hfailed⟩ := h.failed failure hfailure
    obtain ⟨item, hget, hjob⟩ := Option.map_eq_some_iff.1 hfailed
    rcases Nat.lt_trichotomy i m.delivered.length with hlt | rfl | hgt
    · exact h.ended i hlt
    · exact hmem
    · -- behind the failure nothing is reached
      obtain ⟨logged, hok⟩ := hreached _ hgt item hget
      rw [hok] at hjob
      simp at hjob

/-! ### The size of a pool -/

/-- A pool for any jobs has a worker. -/
lemma one_le_size {workers : Int} {jobs : Nat} (h : 1 ≤ jobs) : 1 ≤ size workers jobs := by
  unfold size
  omega

/-- A pool has no more workers than there are jobs. -/
lemma size_le (workers : Int) (jobs : Nat) : size workers jobs ≤ jobs := by
  unfold size
  omega

/-- Jobs that are not done one after the other are at least two. -/
lemma two_le_of_isSerial_eq_false {workers : Int} {jobs : Nat}
    (h : isSerial workers jobs = false) : 2 ≤ jobs := by
  simp only [isSerial, Bool.or_eq_false_iff, decide_eq_false_iff_not] at h
  omega

end Pool

namespace Workspace

/-- **Scans by a pool and scans one after the other.** For every number of workers, also zero and
negative ones, and all paths:

* the serial loop gives the results of all paths, or those of the paths before the first one whose
  scan fails, and its failure;
* every schedule of a pool that has come to an end has delivered these very results with this very
  failure, and so do the scans when they end in the order of that schedule;
* a schedule can go on until it has come to an end, and cannot go on forever;
* a pool is set up with at least one worker, and with no more than there are paths.

**Proof sketch.** A pool at work keeps the invariant `Pool.Sound`, by a case for each step
(`Pool.Step.sound`): results are delivered in the order of submission, each from the slot of its own
job. At the end nothing is missing in front of the first failure (`Pool.Sound.collects`), and there
is one way only to collect results (`Pool.Collects.eq_runSerially`). Steps count down
(`Pool.Step.remaining_lt`), and as long as there is a worker, one of them is possible
(`Pool.Sound.exists_step`). -/
theorem scanFiles_refines_serial (workspace : Workspace) (paths : List Path) :
    Pool.Collects workspace.scanFile paths (Pool.runSerially workspace.scanFile paths).value ∧
    (∀ m, Pool.Reachable workspace.scanFile paths
        (Pool.size workspace.settings.workers paths.length) m → m.Ended paths.length →
      m.collected = (Pool.runSerially workspace.scanFile paths).value ∧
      (workspace.scanFiles m.order paths).value =
        (Pool.runSerially workspace.scanFile paths).value) ∧
    (∀ m, Pool.Reachable workspace.scanFile paths
        (Pool.size workspace.settings.workers paths.length) m → ¬ m.Ended paths.length →
      ∃ m', Pool.Step workspace.scanFile paths
        (Pool.size workspace.settings.workers paths.length) m m') ∧
    (¬ ∃ moments : Nat → Pool.Moment FileResult, moments 0 = .start paths.length ∧
      ∀ n, Pool.Step workspace.scanFile paths (Pool.size workspace.settings.workers paths.length)
        (moments n) (moments (n + 1))) ∧
    (Pool.isSerial workspace.settings.workers paths.length = false →
      1 ≤ Pool.size workspace.settings.workers paths.length ∧
        Pool.size workspace.settings.workers paths.length ≤ paths.length) := by
  refine ⟨Pool.collects_runSerially _ _, ?_, ?_, Pool.not_exists_endless, ?_⟩
  · intro m hm hended
    refine ⟨(hm.sound.collects hended).eq_runSerially, ?_⟩
    unfold scanFiles
    split
    · rfl
    · exact Pool.value_run fun i hi hreached => hm.sound.mem_order hended hi hreached
  · intro m hm hopen
    apply hm.sound.exists_step _ hopen
    intro hne
    exact Pool.one_le_size (List.length_pos_of_ne_nil hne)
  · intro hpool
    have htwo := Pool.two_le_of_isSerial_eq_false hpool
    exact ⟨Pool.one_le_size (by omega), Pool.size_le _ _⟩

end Workspace

end SourceLint
