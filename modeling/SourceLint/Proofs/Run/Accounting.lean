import SourceLint.Proofs.FileSystem.LinkFree
import SourceLint.Proofs.FileSystem.Listing
import SourceLint.Proofs.Grammar.Memory
import SourceLint.Proofs.Language.Selection
import SourceLint.Proofs.Run.Schedule

set_option autoImplicit false

/-!
# Accounting for discovered files

A run that is not obstructed ends with a summary in which every discovered file is accounted for
once: it was skipped, or it is reported as an error, or it is counted as scanned. Whatever goes
wrong with reading or parsing a file stays with that file.

A run is obstructed in three ways, all of them in the file system: an argument is too long to be
looked up, which the target of a link can cause as well; a file cannot be resolved because its links
lead in a circle; or the root cannot be resolved for that reason. A run that is obstructed gives
nothing, however many files it could have scanned.

## Main definitions

* `Workspace.ConfinesFailures` — the failures of parsers stay with their sources.
* `Workspace.Unobstructed` — nothing in the file system keeps a run from ending with a summary.
* `Workspace.Accounts` — every file is accounted for once.

## Main results

* `Workspace.skipped_iff` — the files that are skipped.
* `Summary.ofResults_eq` — what a summary holds.
* `Workspace.run_accounts` — when a run ends with a summary, and what that summary accounts for.
-/

namespace SourceLint

/-- Where all jobs have results, each job stands beside its own. -/
lemma Pool.exists_mem_zip {α β : Type} {job : β → Outcome α} {items : List β} {results : List α}
    (h : List.Forall₂ (Gives job) items results) {item : β} (hitem : item ∈ items) :
    ∃ result, (item, result) ∈ items.zip results ∧ Gives job item result := by
  obtain ⟨hlength, hgives⟩ := List.forall₂_iff_zip.1 h
  rw [← List.map_fst_zip (Nat.le_of_eq hlength)] at hitem
  obtain ⟨⟨_, result⟩, hpair, rfl⟩ := List.mem_map.1 hitem
  exact ⟨result, hpair, hgives hpair⟩

/-- Where all jobs have results, each result is that of a job. -/
lemma Pool.exists_gives_of_mem {α β : Type} {job : β → Outcome α} {items : List β}
    {results : List α} (h : List.Forall₂ (Gives job) items results) {result : α}
    (hresult : result ∈ results) : ∃ item ∈ items, Gives job item result := by
  obtain ⟨hlength, hgives⟩ := List.forall₂_iff_zip.1 h
  rw [← List.map_snd_zip (Nat.le_of_eq hlength.symm)] at hresult
  obtain ⟨⟨item, _⟩, hpair, rfl⟩ := List.mem_map.1 hresult
  exact ⟨item, (List.of_mem_zip hpair).1, hgives hpair⟩

/-! ### The name of a file in reports -/

/-- A file that can be resolved has a name unless the root cannot be resolved. -/
lemma FileSystem.exists_displayPath_iff {fs : FileSystem} {root path resolved : Path}
    (h : fs.resolve path = .ok resolved) :
    (∃ name, fs.displayPath root path = .ok name) ↔
      ∀ failure, fs.resolve root = .error failure → failure = .zeroCharacter := by
  unfold displayPath
  rw [h]
  cases hroot : fs.resolve root with
  | ok resolvedRoot =>
    simp only [reduceCtorEq, false_implies, implies_true, iff_true]
    split <;> exact ⟨_, rfl⟩
  | error failure => cases failure <;> simp

/-! ### The result of a file -/

/-- Parsing passes nothing on when building the parser and the parser fail in no other ways than
those that refuse a source. -/
lemma Loader.answer_parse_ne_brokeDown {supply : GrammarSupply} {grammar : String}
    {reply : ParserReply}
    (hbuild : ∀ breakdown, supply.obstacle? grammar = some breakdown → breakdown.isRefusal = true)
    (hreply : ∀ breakdown, reply = .brokeDown breakdown → breakdown.isRefusal = true)
    (loader : Loader) (passed : Breakdown) :
    (loader.parse supply grammar reply).answer ≠ .brokeDown passed := by
  have hconfined : ∀ breakdown : Breakdown, breakdown.isRefusal = true →
      ParseOutcome.ofBreakdown grammar breakdown ≠ .brokeDown passed := by
    intro breakdown hrefusal hpassed
    simp [(ParseOutcome.ofBreakdown_eq_brokeDown_iff.1 hpassed).1] at hrefusal
  have hjudge : (judge grammar reply).value ≠ .brokeDown passed := by
    cases reply with
    | tree root recovered => cases recovered <;> simp [judge]
    | nothing => simp [judge]
    | brokeDown breakdown => exact hconfined breakdown (hreply breakdown rfl)
  rcases parse_cases supply loader grammar with
    hkept | ⟨hparser, hthere⟩ | ⟨hparser, hthere, breakdown, hobstacle⟩ |
      ⟨hparser, hthere, hbuildable⟩
  · rwa [parse_of_kept supply hkept]
  · simp [parse_of_missing hparser hthere]
  · rw [parse_of_obstacle hparser hthere hobstacle]
    exact hconfined breakdown (hbuild breakdown hobstacle)
  · rwa [parse_of_buildable hparser hthere hbuildable]

/-- Neither does a scan. -/
lemma Scan.value_scan_ne_brokeDown {supply : GrammarSupply} {source : Source} {reply : ParserReply}
    (hbuild : ∀ breakdown, supply.obstacle? source.language.grammar = some breakdown →
      breakdown.isRefusal = true)
    (hreply : ∀ breakdown, reply = .brokeDown breakdown → breakdown.isRefusal = true)
    (faults : RuleFaults) (passed : Breakdown) :
    (scan supply faults source reply).value ≠ .error (.brokeDown passed) := by
  unfold scan
  simp only
  split
  · simp
  · simp
  · rename_i other hparse
    exact absurd hparse (Loader.answer_parse_ne_brokeDown hbuild hreply _ other)

namespace Workspace

/-- Whatever goes wrong with a parser stays with the source: building a parser and parsing fail in
no other ways than those that refuse a source. -/
structure ConfinesFailures (workspace : Workspace) : Prop where
  building : ∀ grammar breakdown, workspace.supply.obstacle? grammar = some breakdown →
    breakdown.isRefusal = true
  parsing : ∀ grammar text breakdown, workspace.parser grammar text = .brokeDown breakdown →
    breakdown.isRefusal = true

variable {workspace : Workspace} {path : Path} {paths : List Path} {result : FileResult}

/-- The text of a file is scanned if the failures of parsers are confined. -/
lemma exists_scanText (hparser : workspace.ConfinesFailures) (file : String) (language : Language)
    (text : String) : ∃ logged, workspace.scanText file language text = .ok logged := by
  unfold scanText
  simp only
  split
  · exact ⟨_, rfl⟩
  · exact ⟨_, rfl⟩
  · rename_i breakdown hscan
    exact absurd hscan (Scan.value_scan_ne_brokeDown (hparser.building _) (hparser.parsing _ _) _ _)

/-- A file that could be read is not skipped. -/
lemma skipped_of_scanText {file : String} {language : Language} {text : String}
    {logged : Logged FileResult} (h : workspace.scanText file language text = .ok logged) :
    logged.value.skipped = false := by
  unfold scanText at h
  simp only at h
  split at h
  · cases h
    rfl
  · cases h
    rfl
  · cases h

/-- A file has a result when it has a name, if the failures of parsers are confined. -/
lemma exists_gives_scanFile_iff (hparser : workspace.ConfinesFailures) :
    (∃ result, Pool.Gives workspace.scanFile path result) ↔
      ∃ name, workspace.files.displayPath workspace.root path = .ok name := by
  constructor
  · rintro ⟨result, events, h⟩
    obtain ⟨name, hname, -⟩ := bind_eq_ok_iff.1 h
    exact ⟨name, hname⟩
  · rintro ⟨name, hname⟩
    suffices hlogged : ∃ logged, workspace.scanFile path = .ok logged by
      obtain ⟨⟨events, result⟩, hlogged⟩ := hlogged
      exact ⟨result, events, hlogged⟩
    simp only [scanFile, hname, bind, Except.bind]
    split
    · exact ⟨_, rfl⟩
    · split
      · exact ⟨_, rfl⟩
      · split
        · exact ⟨_, rfl⟩
        · exact exists_scanText hparser _ _ _

/-- **The files that are skipped** are those that the settings do not select. -/
lemma skipped_iff (h : Pool.Gives workspace.scanFile path result) :
    result.skipped = true ↔ workspace.settings.selects path = false := by
  obtain ⟨events, h⟩ := h
  obtain ⟨name, -, h⟩ := bind_eq_ok_iff.1 h
  unfold Settings.selects
  split at h
  · rename_i hnone
    cases h
    simp [hnone]
  · rename_i language hlanguage
    rw [hlanguage, Option.any_some]
    split at h
    · rename_i hdisabled
      cases h
      simpa using hdisabled
    · rename_i henabled
      have hskipped : result.skipped = false := by
        split at h
        · cases h
          rfl
        · exact skipped_of_scanText h
      simpa [hskipped] using henabled

end Workspace

/-! ### Summaries -/

/-- A result is that of a file that was skipped, failed or scanned, and of only one of these. -/
lemma FileResult.count_fates (result : FileResult) :
    [result.skipped, result.isFailed, result.isScanned].count true = 1 := by
  unfold isFailed isScanned
  cases result.skipped <;> cases result.error <;> rfl

/-- As many results are skipped, failed and scanned as there are results. -/
lemma FileResult.countP_fates (results : List FileResult) :
    results.countP (·.skipped) + results.countP (·.isFailed) + results.countP (·.isScanned) =
      results.length := by
  induction results with
  | nil => rfl
  | cons result results ih =>
    have hfates := result.count_fates
    simp only [List.count_cons, List.count_nil, beq_iff_eq] at hfates
    simp only [List.countP_cons, List.length_cons]
    omega

namespace Summary

/-- One more result adds to the part of the summary that it belongs to. -/
lemma add_eq (summary : Summary) (result : FileResult) :
    summary.add result =
      ⟨summary.filesScanned + ([result].countP (·.isScanned) : Nat),
        summary.diagnostics ++ ([result].filter (·.isScanned)).flatMap (·.diagnostics),
        summary.errors ++ [result].filter (·.isFailed)⟩ := by
  unfold add FileResult.isScanned FileResult.isFailed
  cases hskipped : result.skipped <;> cases herror : result.error <;> simp [hskipped, herror]

/-- **What a summary holds.** It counts the results that are scanned, and keeps their diagnostics
and the results that failed, both in order. -/
lemma ofResults_eq (results : List FileResult) :
    ofResults results =
      ⟨(results.countP (·.isScanned) : Nat), (results.filter (·.isScanned)).flatMap (·.diagnostics),
        results.filter (·.isFailed)⟩ := by
  have hfold : ∀ summary : Summary, results.foldl add summary =
      ⟨summary.filesScanned + (results.countP (·.isScanned) : Nat),
        summary.diagnostics ++ (results.filter (·.isScanned)).flatMap (·.diagnostics),
        summary.errors ++ results.filter (·.isFailed)⟩ := by
    induction results with
    | nil => simp
    | cons result results ih =>
      intro summary
      have hcons : result :: results = [result] ++ results := rfl
      rw [List.foldl_cons, ih, add_eq, hcons]
      simp only [List.countP_append, List.filter_append, List.flatMap_append, List.append_assoc,
        Nat.cast_add, Int.add_assoc]
  rw [ofResults, hfold]
  simp [nil]

end Summary

namespace Workspace

variable {workspace : Workspace} {order : Nat → List Nat} {paths : List Path}
  {logged : Logged RunOutcome}

/-! ### Runs -/

/-- Whatever the order in which scans end, the results are those of the serial loop. -/
lemma collects_scanFiles (workspace : Workspace) {order : List Nat}
    (horder : ∀ i < paths.length, i ∈ order) :
    Pool.Collects workspace.scanFile paths (workspace.scanFiles order paths).value := by
  unfold scanFiles
  split
  · exact Pool.collects_runSerially _ _
  · rw [Pool.value_run fun i hi _ => horder i hi]
    exact Pool.collects_runSerially _ _

/-- A run that ends gives the results of the discovered files, in order. -/
lemma exists_discover_of_runInOrder (horder : ∀ n, ∀ i < n, i ∈ order n)
    (h : workspace.runInOrder order paths = .ok logged) :
    ∃ found, Discovery.discover workspace.files workspace.settings paths = .ok found ∧
      List.Forall₂ (Pool.Gives workspace.scanFile) found.value logged.value.done ∧
      logged.value.discovered = found.value.length ∧
      logged.value.summary = .ofResults logged.value.done := by
  obtain ⟨found, hfound, h⟩ := bind_eq_ok_iff.1 h
  simp only at h
  split at h
  · cases h
  · rename_i hnone
    cases h
    have hcollects := collects_scanFiles workspace (horder found.value.length)
    rw [Pool.Collects, hnone] at hcollects
    exact ⟨found, hfound, hcollects, rfl, rfl⟩

/-- A run ends when every discovered file has a result. -/
lemma exists_runInOrder (horder : ∀ n, ∀ i < n, i ∈ order n) {found : Logged (List Path)}
    (hfound : Discovery.discover workspace.files workspace.settings paths = .ok found)
    (hresults : ∀ path ∈ found.value, ∃ result, Pool.Gives workspace.scanFile path result) :
    ∃ logged, workspace.runInOrder order paths = .ok logged := by
  have hcollects := collects_scanFiles workspace (horder found.value.length)
  unfold runInOrder
  rw [hfound]
  simp only [bind, Except.bind]
  split
  · rename_i failure hfailure
    rw [Pool.Collects, hfailure] at hcollects
    obtain ⟨before, path, after, hfiles, -, hpath⟩ := hcollects
    obtain ⟨result, events, hresult⟩ := hresults path (by simp [hfiles])
    rw [hpath] at hresult
    cases hresult
  · exact ⟨_, rfl⟩

/-! ### Accounting -/

/-- Nothing in the file system keeps a run from ending with a summary. -/
structure Unobstructed (workspace : Workspace) (paths : List Path) : Prop where
  /-- No argument is too long to be looked up. -/
  arguments : ∀ path ∈ paths, workspace.files.lookup path ≠ .error .nameTooLong
  /-- Every file that the arguments stand for can be resolved. -/
  candidates : ∀ file ∈ Discovery.allCandidates workspace.files workspace.settings paths,
    ∃ resolved, workspace.files.resolve file = .ok resolved
  /-- Where there are files, the root can be resolved or holds a zero character. -/
  root : Discovery.allCandidates workspace.files workspace.settings paths ≠ [] →
    ∀ failure, workspace.files.resolve workspace.root = .error failure → failure = .zeroCharacter

/-- Every file is accounted for once in what a run gives. -/
structure Accounts (workspace : Workspace) (files : List Path) (outcome : RunOutcome) : Prop where
  /-- The files are announced. -/
  discovered : outcome.discovered = files.length
  /-- Every file has its own result. -/
  done : List.Forall₂ (Pool.Gives workspace.scanFile) files outcome.done
  /-- A result is skipped, failed or scanned, and only one of these. -/
  fates : ∀ result ∈ outcome.done,
    [result.skipped, result.isFailed, result.isScanned].count true = 1
  /-- The scanned ones are counted. -/
  filesScanned : outcome.summary.filesScanned = (outcome.done.countP (·.isScanned) : Nat)
  /-- The failed ones are reported. -/
  errors : outcome.summary.errors = outcome.done.filter (·.isFailed)
  /-- No file is lost. -/
  total : (outcome.done.countP (·.skipped) : Int) + outcome.summary.errors.length +
    outcome.summary.filesScanned = outcome.discovered

/-- What a run gives accounts for the discovered files. -/
lemma accounts_of_forall₂ {files : List Path} {outcome : RunOutcome}
    (hdone : List.Forall₂ (Pool.Gives workspace.scanFile) files outcome.done)
    (hdiscovered : outcome.discovered = files.length)
    (hsummary : outcome.summary = .ofResults outcome.done) :
    workspace.Accounts files outcome := by
  have hsummary := hsummary.trans (Summary.ofResults_eq _)
  have htotal := FileResult.countP_fates outcome.done
  refine ⟨hdiscovered, hdone, fun result _ => result.count_fates, by rw [hsummary],
    by rw [hsummary], ?_⟩
  rw [hsummary, hdiscovered, hdone.length_eq, ← htotal, ← List.countP_eq_length_filter]
  push_cast
  rfl

/-- A run that nothing obstructs ends with a summary, if the failures of parsers are confined. -/
lemma exists_runInOrder_of_unobstructed (horder : ∀ n, ∀ i < n, i ∈ order n)
    (hparser : workspace.ConfinesFailures) (h : workspace.Unobstructed paths) :
    ∃ logged, workspace.runInOrder order paths = .ok logged := by
  obtain ⟨found, hfound⟩ := Discovery.exists_discover_iff.2 ⟨h.arguments, h.candidates⟩
  apply exists_runInOrder horder hfound
  intro path hpath
  obtain ⟨resolved, hfirst⟩ := (Discovery.mem_discovered_iff hfound).1 hpath
  have hroot := h.root (List.ne_nil_of_mem hfirst.mem)
  exact (exists_gives_scanFile_iff hparser).2
    ((FileSystem.exists_displayPath_iff hfirst.resolve_eq).2 hroot)

/-- Nothing obstructs a run that ends with a summary. -/
lemma unobstructed_of_runInOrder (horder : ∀ n, ∀ i < n, i ∈ order n)
    (hparser : workspace.ConfinesFailures) (h : workspace.runInOrder order paths = .ok logged) :
    workspace.Unobstructed paths := by
  obtain ⟨found, hfound, hdone, -, -⟩ := exists_discover_of_runInOrder horder h
  obtain ⟨harguments, hcandidates⟩ := Discovery.exists_discover_iff.1 ⟨found, hfound⟩
  refine ⟨harguments, hcandidates, ?_⟩
  intro hsome
  obtain ⟨file, hfile⟩ := List.exists_mem_of_ne_nil _ hsome
  obtain ⟨resolved, hresolved⟩ := hcandidates file hfile
  obtain ⟨first, hfirst⟩ := Discovery.exists_isFirst hfile hresolved
  have hfound := (Discovery.mem_discovered_iff hfound).2 ⟨resolved, hfirst⟩
  obtain ⟨result, -, hresult⟩ := Pool.exists_mem_zip hdone hfound
  exact (FileSystem.exists_displayPath_iff hfirst.resolve_eq).1
    ((exists_gives_scanFile_iff hparser).1 ⟨result, hresult⟩)

/-- **Every discovered file is accounted for.** Whatever the file system, the arguments, the
settings and the order in which scans end, if building parsers and parsing fail in no other ways
than those that refuse a source, a run ends with a summary exactly when nothing in the file system
obstructs it. The summary then accounts for every discovered file once, be it unreadable,
unparsable, a link that leads nowhere or of no enabled language.

**Proof sketch.** Discovery succeeds when no argument is too long and every candidate can be
resolved (`Discovery.exists_discover_iff`). A discovered file can be resolved, so it has a name
unless the root cannot be resolved, and a file with a name has a result. -/
theorem run_accounts (workspace : Workspace) (order : Nat → List Nat) (paths : List Path)
    (horder : ∀ n, ∀ i < n, i ∈ order n) (hparser : workspace.ConfinesFailures) :
    ((∃ logged, workspace.runInOrder order paths = .ok logged) ↔ workspace.Unobstructed paths) ∧
      ∀ logged, workspace.runInOrder order paths = .ok logged →
        ∃ found, Discovery.discover workspace.files workspace.settings paths = .ok found ∧
          workspace.Accounts found.value logged.value := by
  refine ⟨⟨?_, exists_runInOrder_of_unobstructed horder hparser⟩, ?_⟩
  · rintro ⟨logged, hlogged⟩
    exact unobstructed_of_runInOrder horder hparser hlogged
  · intro logged hlogged
    obtain ⟨found, hfound, hdone, hdiscovered, hsummary⟩ :=
      exists_discover_of_runInOrder horder hlogged
    exact ⟨found, hfound, accounts_of_forall₂ hdone hdiscovered hsummary⟩

/-- A workspace with a file and some links in its working directory. -/
def sample (links : List (String × String)) : Workspace where
  files := ⟨[("w", .directory (("a.py", .file (.ok [120])) ::
    links.map fun link => (link.1, .link link.2)))], ["w"]⟩
  supply := {}
  parser _ _ := .tree ⟨"module", true, 0, 1, 0, 0, none, []⟩ false
  settings := {}
  root := ⟨.root, ["w"]⟩

/-- A parser never fails. -/
lemma confinesFailures_sample (links : List (String × String)) :
    (sample links).ConfinesFailures where
  building _ _ := nofun
  parsing _ _ _ := nofun

/-- The path of the file leads to it. -/
lemma lookup_sample_file (links : List (String × String)) :
    (sample links).files.lookup (Path.ofString "/w/a.py") =
      .ok (["w", "a.py"], .file (.ok [120])) :=
  (FileSystem.locate_name (by decide) (by decide)).trans
    (FileSystem.locate_name (by decide) (by decide))

/-- What is followed to the file resolves to it. -/
lemma resolve_sample_of_follow {links : List (String × String)} {path : Path}
    {trail : FileSystem.LinkTrail}
    (h : (sample links).files.follow (sample links).files.followDepth [] (FileSystem.origin path)
      path.names = some ⟨Path.ofString "a.py", true, trail⟩) :
    (sample links).files.resolve path = .ok (Path.ofString "/w/a.py") := by
  refine FileSystem.resolve_eq_ok_iff.2 ⟨_, h, rfl, by decide, ?_⟩
  simp [lookup_sample_file]

/-- The name of the file resolves to its path. -/
lemma resolve_sample_file (links : List (String × String)) :
    (sample links).files.resolve (Path.ofString "a.py") = .ok (Path.ofString "/w/a.py") :=
  resolve_sample_of_follow (FileSystem.follow_singleton (by decide) rfl)

/-- The root resolves to the working directory. -/
lemma resolve_sample_root (links : List (String × String)) :
    (sample links).files.resolve (sample links).root = .ok (Path.ofString "/w") := by
  refine FileSystem.resolve_eq_ok_iff.2 ⟨_, FileSystem.follow_singleton (by decide) rfl, rfl,
    by decide, ?_⟩
  have hlookup : (sample links).files.lookup (Path.ofString "/w") = .ok (["w"], .directory _) :=
    (FileSystem.locate_name (by decide) (by decide)).trans (FileSystem.locate_nil rfl)
  simp [hlookup]

/-- A run over a file and a link that leads nowhere. -/
theorem run_accounts_dangling_link :
    (∀ n, ∀ i < n, i ∈ List.range n) ∧
      (sample [("l.py", "gone")]).ConfinesFailures ∧
      ∃ logged found,
        (sample [("l.py", "gone")]).runInOrder List.range
            [Path.ofString "l.py", Path.ofString "a.py"] = .ok logged ∧
          Discovery.discover (sample [("l.py", "gone")]).files {}
            [Path.ofString "l.py", Path.ofString "a.py"] = .ok found ∧
          (sample [("l.py", "gone")]).Accounts found.value logged.value := by
  have horder : ∀ n, ∀ i < n, i ∈ List.range n := fun n i hi => List.mem_range.2 hi
  have hparser := confinesFailures_sample [("l.py", "gone")]
  have hlink : (sample [("l.py", "gone")]).files.lookup (Path.ofString "l.py") =
      .error .notFound :=
    (FileSystem.locate_name (by decide) (by decide)).trans
      (FileSystem.locate_name (by decide) (by decide))
  have hfile : (sample [("l.py", "gone")]).files.lookup (Path.ofString "a.py") =
      .ok (["w", "a.py"], .file (.ok [120])) :=
    FileSystem.locate_name (by decide) (by decide)
  have hcandidates : Discovery.allCandidates (sample [("l.py", "gone")]).files {}
      [Path.ofString "l.py", Path.ofString "a.py"] = [Path.ofString "a.py"] := by
    simp [Discovery.allCandidates, Discovery.candidates, hlink, hfile]
  have hunobstructed : (sample [("l.py", "gone")]).Unobstructed
      [Path.ofString "l.py", Path.ofString "a.py"] := by
    refine ⟨?_, ?_, ?_⟩
    · simp [hlink, hfile]
    · intro file hmem
      obtain rfl := List.mem_singleton.1 (hcandidates ▸ hmem)
      exact ⟨_, resolve_sample_file _⟩
    · intro _ failure hfailure
      cases (resolve_sample_root _).symm.trans hfailure
  obtain ⟨hends, haccounts⟩ := run_accounts (sample [("l.py", "gone")]) List.range
    [Path.ofString "l.py", Path.ofString "a.py"] horder hparser
  obtain ⟨logged, hlogged⟩ := hends.2 hunobstructed
  obtain ⟨found, hfound, hfoundAccounts⟩ := haccounts logged hlogged
  exact ⟨horder, hparser, logged, found, hlogged, hfound, hfoundAccounts⟩

/-- A name of some length. -/
def nameOfSize (size : Nat) : String :=
  String.ofList (List.replicate size 'n')

/-- The name has the given size. -/
lemma utf8ByteSize_nameOfSize (size : Nat) : (nameOfSize size).utf8ByteSize = size := by
  induction size with
  | zero => rfl
  | succ size ih =>
    rw [nameOfSize, String.utf8ByteSize_ofList] at ih ⊢
    rw [List.replicate_succ, String.utf8Len_cons, ih]
    rfl

/-- The name holds no slash. -/
lemma slash_not_mem_nameOfSize (size : Nat) : '/' ∉ (nameOfSize size).toList := by
  rw [nameOfSize, String.toList_ofList]
  exact fun hmem => absurd (List.eq_of_mem_replicate hmem) (by decide)

/-- A link to a name that is too long cannot be looked up. -/
lemma lookup_sample_long_target :
    (sample [("l.py", nameOfSize 256)]).files.lookup (Path.ofString "l.py") =
      .error .nameTooLong := by
  have hlong : FileSystem.maxNameBytes < (nameOfSize 256).utf8ByteSize := by
    rw [utf8ByteSize_nameOfSize]
    decide
  exact FileSystem.locate_of_tooLong_target (by decide) (by decide) rfl
    (slash_not_mem_nameOfSize 256) hlong

/-- A link to itself leads in a circle. -/
lemma locate_sample_circle (links : Nat) :
    (sample [("l.py", "l.py")]).files.locate links ["w"] ["l.py"] = .error .tooManyLinks :=
  FileSystem.locate_of_self_link (by decide) (by decide) rfl links

/-- A link that leads to itself is listed by a walk. -/
lemma mem_allCandidates_sample_circle :
    Path.ofString "l.py" ∈
      Discovery.allCandidates (sample [("l.py", "l.py")]).files {} [Path.ofString "."] := by
  have hworking : (sample [("l.py", "l.py")]).files.lookup (Path.ofString ".") =
      .ok (["w"], .directory [("a.py", .file (.ok [120])), ("l.py", .link "l.py")]) :=
    FileSystem.locate_nil rfl
  have hlookup : (sample [("l.py", "l.py")]).files.lookup ⟨.relative, [".", "l.py"]⟩ =
      .error .tooManyLinks :=
    (FileSystem.locate_dot _ _ _).trans (locate_sample_circle _)
  have hcounts : (sample [("l.py", "l.py")]).files.countsAsFile ⟨.relative, [".", "l.py"]⟩
      (.link "l.py") = true := by
    rw [FileSystem.countsAsFile, hlookup]
  refine List.mem_flatMap.2 ⟨_, List.mem_singleton_self _, ?_⟩
  rw [Discovery.candidates, hworking]
  exact (FileSystem.mem_walk_flat_iff (by decide) (by simp)).2
    ⟨"l.py", _, .tail _ (.head _), by decide, hcounts, by decide⟩

/-- A link that leads to itself cannot be resolved. -/
lemma resolve_sample_circle :
    (sample [("l.py", "l.py")]).files.resolve ⟨.relative, ["l.py"]⟩ =
      .error (.linkLoop "/w/l.py") := by
  have hreal : (sample [("l.py", "l.py")]).files.realPath? ⟨.relative, []⟩ ["l.py"] =
      some ⟨.relative, ["l.py"]⟩ := by cbv
  have habsolute : (sample [("l.py", "l.py")]).files.absolute ⟨.relative, ["l.py"]⟩ =
      ⟨.root, ["w", "l.py"]⟩ := rfl
  have hzero : Path.holdsZero ⟨.root, ["w", "l.py"]⟩ = false := by decide
  have hlookup : (sample [("l.py", "l.py")]).files.lookup ⟨.root, ["w", "l.py"]⟩ =
      .error .tooManyLinks :=
    (FileSystem.locate_name (by decide) (by decide)).trans (locate_sample_circle _)
  simp only [FileSystem.resolve, FileSystem.origin, hreal, Option.map_some, habsolute, hzero,
    hlookup]
  decide

/-- **One link can stop a run.** The target of a link among the arguments is too long to be looked
up, or a walk meets a link that leads to itself. -/
theorem link_stops_run :
    (∀ links, (sample links).ConfinesFailures) ∧
      (sample [("l.py", nameOfSize 256)]).run [Path.ofString "l.py", Path.ofString "a.py"] =
        .error (.nameTooLong "l.py") ∧
      ¬ ∃ logged, (sample [("l.py", "l.py")]).run [Path.ofString "."] = .ok logged := by
  refine ⟨confinesFailures_sample, ?_, ?_⟩
  · rw [run, runInOrder, Discovery.discover, Discovery.expandAll,
      Discovery.expand_of_tooLong lookup_sample_long_target]
    rfl
  · rintro ⟨logged, hlogged⟩
    obtain ⟨found, hfound, -⟩ := bind_eq_ok_iff.1 hlogged
    obtain ⟨-, hresolve⟩ := Discovery.exists_discover_iff.1 ⟨found, hfound⟩
    obtain ⟨resolved, hresolved⟩ := hresolve _ mem_allCandidates_sample_circle
    cases resolve_sample_circle.symm.trans hresolved

end Workspace

end SourceLint
