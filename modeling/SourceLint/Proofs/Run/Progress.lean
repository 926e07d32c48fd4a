import SourceLint.Proofs.Run.Restriction
import SourceLint.Run.Observer

set_option autoImplicit false

/-!
# What an observer is told

The results of a run pass through three hands: an observer is told each of them, they are kept in a
list, and a summary is made of that list. All three see the same results, those of the discovered
files in the order of discovery, whether the scans are done one after the other or by a pool. An
observer of a run that ends with a summary can therefore foresee it: it knows how many files there
are before it is told of the first one, and it is told of so many.

A summary is made result by result, so the summary of two runs of results is made of their
summaries.

## Main results

* `Summary.ofResults_append` — summaries add up.
* `Pool.deliver_eq` — what is told is what is kept.
* `Workspace.snd_observe` — an observed run ends as a run does.
* `Workspace.observe_of_run` — what is told of a run that ends.
* `Workspace.observer_told_all` — what is told, kept and summarised.
-/

namespace SourceLint

/-- **Summaries add up**: the counts are added, and the lists are put behind each other. -/
lemma Summary.ofResults_append (results others : List FileResult) :
    ofResults (results ++ others) =
      ⟨(ofResults results).filesScanned + (ofResults others).filesScanned,
        (ofResults results).diagnostics ++ (ofResults others).diagnostics,
        (ofResults results).errors ++ (ofResults others).errors⟩ := by
  simp only [ofResults_eq, List.countP_append, List.filter_append, List.flatMap_append,
    Nat.cast_add]

/-! ### Delivery -/

namespace Pool

variable {α β σ : Type}

/-- **What is told is what is kept**: the results up to the first failure, in order.

**Proof sketch.** Induction on the outcomes, with what the observer knows and what has been kept so
far left open: the loop tells and keeps one result, and goes on with both changed. -/
lemma deliver_eq (tell : α → σ → σ) (state : σ) (kept : List α) (outcomes : List (Outcome α)) :
    deliver tell state kept outcomes =
      ((collect outcomes).results.foldl (fun known result => tell result known) state,
        ⟨kept ++ (collect outcomes).results, (collect outcomes).failure⟩) := by
  induction outcomes generalizing state kept with
  | nil => simp [deliver, collect]
  | cons outcome outcomes ih =>
    cases outcome with
    | error failure => simp [deliver, collect]
    | ok logged =>
      rw [deliver, ih, collect, List.foldl_cons, List.append_assoc, List.singleton_append]

/-- The serial loop collects the outcomes of its jobs. -/
lemma collect_map (job : β → Outcome α) (items : List β) :
    collect (items.map job) = (runSerially job items).value := by
  induction items with
  | nil => rfl
  | cons item items ih =>
    rw [List.map_cons, runSerially]
    cases job item with
    | error failure => rfl
    | ok logged => rw [collect, ih]

end Pool

/-! ### Observed runs -/

namespace Workspace

variable {σ : Type} {workspace : Workspace} {order : Nat → List Nat} {paths : List Path}

/-- The outcomes that are delivered are those that scans collect. -/
lemma collect_outcomes (workspace : Workspace) (order : List Nat) (paths : List Path) :
    Pool.collect (workspace.outcomes order paths) = (workspace.scanFiles order paths).value := by
  unfold outcomes scanFiles
  split
  · exact Pool.collect_map _ _
  · rfl

/-- An observed run ends as a run without an observer does, and reports the same. -/
lemma snd_observeLogged (workspace : Workspace) (order : Nat → List Nat) (paths : List Path)
    (observer : Observer σ) (start : σ) :
    (workspace.observeLogged observer order paths start).2 =
      (workspace.runInOrder order paths).map fun logged =>
        ⟨logged.events, logged.value.summary⟩ := by
  unfold observeLogged runInOrder
  cases Discovery.discover workspace.files workspace.settings paths with
  | error failure => rfl
  | ok found =>
    simp only [bind, Except.bind, Pool.deliver_eq, collect_outcomes, List.nil_append]
    cases (workspace.scanFiles (order found.value.length) found.value).value.failure <;> rfl

/-- An observed run ends as a run without an observer does. -/
lemma snd_observe (workspace : Workspace) (order : Nat → List Nat) (paths : List Path)
    (observer : Observer σ) (start : σ) :
    (workspace.observe observer order paths start).2 =
      (workspace.runInOrder order paths).map (·.value.summary) := by
  rw [observe, snd_observeLogged]
  cases workspace.runInOrder order paths <;> rfl

/-- **An observer is told what a run gives**: first the number of files, then their results. -/
lemma observe_of_run {logged : Logged RunOutcome} (observer : Observer σ) (start : σ)
    (h : workspace.runInOrder order paths = .ok logged) :
    workspace.observe observer order paths start =
      (logged.value.done.foldl (fun known result => observer.done result known)
        (observer.discovered logged.value.discovered start), .ok logged.value.summary) := by
  obtain ⟨found, hfound, h⟩ := bind_eq_ok_iff.1 h
  unfold observe observeLogged
  simp only [hfound, Pool.deliver_eq, collect_outcomes, List.nil_append]
  cases hfailure : (workspace.scanFiles (order found.value.length) found.value).value.failure with
  | some failure =>
    simp only [hfailure] at h
    cases h
  | none =>
    simp only [hfailure] at h
    cases h
    rfl

/-- Where an observed run ends with a summary, so does the run. -/
lemma exists_run_of_observe {observer : Observer σ} {start last : σ} {summary : Summary}
    (h : workspace.observe observer order paths start = (last, .ok summary)) :
    ∃ logged, workspace.runInOrder order paths = .ok logged ∧ logged.value.summary = summary := by
  have hends := workspace.snd_observe order paths observer start
  rw [h] at hends
  cases hrun : workspace.runInOrder order paths with
  | error failure =>
    rw [hrun] at hends
    cases hends
  | ok logged =>
    rw [hrun] at hends
    exact ⟨logged, rfl, (Except.ok.inj hends).symm⟩

/-- **What is told, kept and summarised.**

* A summary counts the results that were neither skipped nor failed, keeps the diagnostics of these
  and no others, and keeps the results that failed without being skipped, all in order.
* The summary of results behind other results is made of both summaries.
* Whoever observes a run that ends with a summary is told once how many files were discovered, and
  then, in the order of discovery, the results of these files, which are those of the summary. The
  files that were scanned, failed and skipped make up the files that were discovered.

**Proof sketch.** The loop that tells the results keeps what it has told (`Pool.deliver_eq`), for
scans one after the other as for a pool (`collect_outcomes`). So the observed run gives what the run
gives, which accounts for every file. -/
theorem observer_told_all (workspace : Workspace) (order : Nat → List Nat) (paths : List Path)
    (horder : ∀ n, ∀ i < n, i ∈ order n) :
    (∀ results : List FileResult,
      Summary.ofResults results =
        { filesScanned :=
            (results.countP fun result => !result.skipped && result.error.isNone : Nat)
          diagnostics :=
            (results.filter fun result => !result.skipped && result.error.isNone).flatMap
              (·.diagnostics)
          errors := results.filter fun result => !result.skipped && result.error.isSome }) ∧
    (∀ results others : List FileResult,
      Summary.ofResults (results ++ others) =
        { filesScanned :=
            (Summary.ofResults results).filesScanned + (Summary.ofResults others).filesScanned
          diagnostics :=
            (Summary.ofResults results).diagnostics ++ (Summary.ofResults others).diagnostics
          errors := (Summary.ofResults results).errors ++ (Summary.ofResults others).errors }) ∧
    ∀ (σ : Type) (observer : Observer σ) (start : σ),
      (workspace.observe observer order paths start).2 =
        (workspace.runInOrder order paths).map (·.value.summary) ∧
      ∀ last summary, workspace.observe observer order paths start = (last, .ok summary) →
        ∃ found results,
          Discovery.discover workspace.files workspace.settings paths = .ok found ∧
          List.Forall₂ (Pool.Gives workspace.scanFile) found.value results ∧
          last = results.foldl (fun known result => observer.done result known)
            (observer.discovered found.value.length start) ∧
          summary = .ofResults results ∧
          summary.filesScanned + summary.errors.length + (results.countP (·.skipped) : Nat) =
            found.value.length := by
  refine ⟨Summary.ofResults_eq, Summary.ofResults_append, fun σ observer start => ?_⟩
  refine ⟨workspace.snd_observe order paths observer start, fun last summary hobserve => ?_⟩
  obtain ⟨logged, hlogged, rfl⟩ := exists_run_of_observe hobserve
  obtain ⟨found, hfound, hdone, hdiscovered, hsummary⟩ :=
    exists_discover_of_runInOrder horder hlogged
  have htotal := (accounts_of_forall₂ hdone hdiscovered hsummary).total
  have htold := observe_of_run observer start hlogged
  rw [hobserve, hdiscovered] at htold
  refine ⟨found, logged.value.done, hfound, hdone, (Prod.mk.inj htold).1, hsummary, ?_⟩
  omega

/-- A workspace with a file to scan, a file of no language and a file that cannot be read. -/
def ledger : Workspace where
  files := ⟨[("w", .directory [("a.py", .file (.ok [120])), ("b.txt", .file (.ok [])),
    ("c.py", .file (.error (.system 13 "Permission denied")))])], ["w"]⟩
  supply := {}
  parser _ _ := .tree ⟨"module", true, 0, 1, 0, 0, none, []⟩ false
  settings := { workers := 2 }
  root := Path.ofString "/w"

/-- A run over the three files ends, in whatever order the scans do. -/
lemma exists_run_ledger {order : Nat → List Nat} (horder : ∀ n, ∀ i < n, i ∈ order n) :
    ∃ logged, ledger.runInOrder order (["a.py", "b.txt", "c.py"].map Path.ofString) =
      .ok logged := by
  have hproper : ledger.files.IsProper := ⟨by decide, _, rfl⟩
  have hlinks : ledger.files.HasNoLinks := rfl
  have hparser : ledger.ConfinesFailures := ⟨fun _ _ => nofun, fun _ _ _ => nofun⟩
  have hlookup : ∀ text ∈ ["a.py", "b.txt", "c.py"],
      ledger.files.lookup (Path.ofString text) ≠ .error .nameTooLong := by
    have hfirst : ledger.files.lookup (Path.ofString "a.py") =
        .ok (["w", "a.py"], .file (.ok [120])) := FileSystem.locate_name (by decide) (by decide)
    have hsecond : ledger.files.lookup (Path.ofString "b.txt") =
        .ok (["w", "b.txt"], .file (.ok [])) := FileSystem.locate_name (by decide) (by decide)
    have hthird : ledger.files.lookup (Path.ofString "c.py") =
        .ok (["w", "c.py"], .file (.error (.system 13 "Permission denied"))) :=
      FileSystem.locate_name (by decide) (by decide)
    simp [hfirst, hsecond, hthird]
  obtain ⟨found, hfound⟩ :=
    (@FileSystem.HasNoLinks.exists_discover_iff _ ledger.settings _ hlinks hproper).2 hlookup
  refine exists_runInOrder horder hfound fun path hpath => ?_
  exact (exists_gives_scanFile_iff hparser).2
    (hlinks.exists_displayPath hfound hpath ledger.root)

/-- What is recorded are the numbers and results in the order in which they were told. -/
lemma foldl_recorder (results : List FileResult) (record : List Nat × List FileResult) :
    results.foldl (fun known result => Observer.recorder.done result known) record =
      (record.1, record.2 ++ results) := by
  induction results generalizing record with
  | nil => simp
  | cons result results ih => rw [List.foldl_cons, ih]; simp [Observer.recorder]

/-- The scans of a pool end in reverse order, and a record is kept of what is told. -/
theorem observer_told_all_ledger :
    (∀ n, ∀ i < n, i ∈ (List.range n).reverse) ∧
      ∃ record summary found results,
        ledger.observe .recorder (fun n => (List.range n).reverse)
          (["a.py", "b.txt", "c.py"].map Path.ofString) ([], []) = (record, .ok summary) ∧
        Discovery.discover ledger.files ledger.settings
          (["a.py", "b.txt", "c.py"].map Path.ofString) = .ok found ∧
        List.Forall₂ (Pool.Gives ledger.scanFile) found.value results ∧
        record = ([found.value.length], results) ∧
        summary = .ofResults results ∧
        summary.filesScanned + summary.errors.length + (results.countP (·.skipped) : Nat) =
          found.value.length := by
  have horder : ∀ n, ∀ i < n, i ∈ (List.range n).reverse :=
    fun n i hi => List.mem_reverse.2 (List.mem_range.2 hi)
  obtain ⟨-, -, htold⟩ := observer_told_all ledger (fun n => (List.range n).reverse)
    (["a.py", "b.txt", "c.py"].map Path.ofString) horder
  obtain ⟨logged, hlogged⟩ := exists_run_ledger horder
  have hobserve := observe_of_run Observer.recorder ([], []) hlogged
  obtain ⟨found, results, hfound, hresults, hrecord, hsummary, htotal⟩ :=
    (htold _ Observer.recorder ([], [])).2 _ _ hobserve
  rw [foldl_recorder results] at hrecord
  exact ⟨horder, _, _, found, results, hobserve, hfound, hresults, hrecord, hsummary, htotal⟩

end Workspace

end SourceLint
