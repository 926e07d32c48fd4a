import SourceLint.CommandLine.Command
import SourceLint.Proofs.FileSystem.Reached
import SourceLint.Proofs.Run.Progress
import SourceLint.Proofs.Scan.Exhaustive
import SourceLint.Proofs.Settings.Validity

set_option autoImplicit false

/-!
# Exit codes and presentation

A command line that asks for a scan says what is scanned and how the findings are presented. What is
scanned are its paths and languages. Everything else is presentation: the number of workers, how
much is logged, notes, colours, the progress bar, the format, and the environment variables behind
some of them. So is what happens to come with the world: the order in which scans end, and the
console.

The exit code of a scan tells whether anything was found, and nothing else. So two command lines
that differ in their presentation only end with the same code, and their documents are the same
text. Paths that lead to nothing may be among the arguments or not. A command line with a format, a
language or a number of workers that does not exist is refused, and the files have no say in that.
All this holds whatever reader of arguments there is.

## Main definitions

* `CommandLine.ScanRequest` — the scan that a command line asks for.
* `CommandLine.ScanRequest.IsAccepted` — it is carried out under some settings.
* `CommandLine.ScanRequest.IsFaulty` — it asks for something that does not exist.
* `World.AgreesWith` — the same files, grammars and parser.
* `FileSystem.isMissing` — a path leads to nothing.

## Main results

* `Discovery.map_value_discover_congr` — what discovery goes by.
* `Workspace.AgreesWith.map_value_runInOrder_eq` — what the outcome of a run goes by.
* `CommandLine.snd_scanWithProgress` — a progress bar makes no difference to a run.
* `CommandLine.ScanRequest.exists_isAccepted_iff` — which scans are carried out.
* `CommandLine.exists_run_eq_of_scanRequest?_eq_none` — what is no scan goes by no file.
* `CommandLine.scan_ends_by_findings` — the exit code and the output of a scan.
-/

namespace SourceLint

/-- Whether a path leads to nothing, neither to a file nor to a directory. -/
def FileSystem.isMissing (fs : FileSystem) (path : Path) : Bool :=
  match fs.isFile path with
  | .ok isFile => !isFile && (fs.directory? path).isNone
  | .error _ => false

/-! ### What discovery goes by -/

namespace Discovery

variable {fs : FileSystem} {settings settings' : Settings} {path : Path} {paths paths' : List Path}

/-- The files of several arguments, without what is reported of them. -/
lemma map_value_expandAll_cons :
    (expandAll fs settings (path :: paths)).map (·.value) = do
      let files ← expand fs settings path
      let resolved ← withResolved fs files.value
      let rest ← (expandAll fs settings paths).map (·.value)
      return resolved ++ rest := by
  rw [expandAll]
  cases expand fs settings path with
  | error failure => rfl
  | ok files =>
    simp only [bind, Except.bind]
    cases withResolved fs files.value with
    | error failure => rfl
    | ok resolved => cases expandAll fs settings paths <;> rfl

/-- A missing path stands for no file. -/
lemma exists_expand_of_isMissing (h : fs.isMissing path = true) :
    ∃ events, expand fs settings path = .ok ⟨events, []⟩ := by
  unfold FileSystem.isMissing at h
  split at h
  · rename_i isFile hisFile
    obtain ⟨hfile, hdirectory⟩ := Bool.and_eq_true_iff.1 h
    rw [Option.isNone_iff_eq_none] at hdirectory
    have hfile : isFile = false := by simpa using hfile
    refine ⟨[.pathMissing path.render], ?_⟩
    simp only [expand, hisFile, hfile, hdirectory]
    rfl
  · cases h

/-- Missing paths make no difference to the files. -/
lemma map_value_expandAll_filter :
    (expandAll fs settings (paths.filter fun path => !fs.isMissing path)).map (·.value) =
      (expandAll fs settings paths).map (·.value) := by
  induction paths with
  | nil => rfl
  | cons path paths ih =>
    cases hmissing : fs.isMissing path with
    | true =>
      obtain ⟨events, hexpand⟩ := exists_expand_of_isMissing hmissing
      rw [List.filter_cons_of_neg (by simp [hmissing]), ih, map_value_expandAll_cons, hexpand]
      cases expandAll fs settings paths <;> rfl
    | false =>
      rw [List.filter_cons_of_pos (by simp [hmissing]), map_value_expandAll_cons,
        map_value_expandAll_cons, ih]

/-- Settings matter for what a walk passes over only. -/
lemma expandAll_congr (h : settings.fileFilter = settings'.fileFilter) :
    expandAll fs settings paths = expandAll fs settings' paths := by
  induction paths with
  | nil => rfl
  | cons path paths ih =>
    have hexpand : expand fs settings path = expand fs settings' path := by
      unfold expand
      rw [h]
    rw [expandAll, expandAll, hexpand, ih]

/-- **What discovery goes by**: what a walk passes over, and the arguments that are not missing. -/
lemma map_value_discover_congr (hsettings : settings.fileFilter = settings'.fileFilter)
    (hpaths : paths.filter (fun path => !fs.isMissing path) =
      paths'.filter fun path => !fs.isMissing path) :
    (discover fs settings paths).map (·.value) = (discover fs settings' paths').map (·.value) := by
  have hdiscover : ∀ settings paths, (discover fs settings paths).map (·.value) =
      ((expandAll fs settings paths).map (·.value)).map (firstOfEach []) := by
    intro settings paths
    unfold discover
    cases expandAll fs settings paths <;> rfl
  rw [hdiscover, hdiscover, ← map_value_expandAll_filter, hpaths, map_value_expandAll_filter,
    expandAll_congr hsettings]

end Discovery

/-! ### What the outcome of a run goes by -/

namespace Workspace

/-- Workspaces with the same files, grammars, parser and root, and the same choice of files. Their
settings may differ in the number of workers, the format and the colours. -/
structure AgreesWith (workspace other : Workspace) : Prop where
  files : workspace.files = other.files
  supply : workspace.supply = other.supply
  parser : workspace.parser = other.parser
  root : workspace.root = other.root
  languages : workspace.settings.languages = other.settings.languages
  skippedDirectories : workspace.settings.skippedDirectories = other.settings.skippedDirectories

variable {workspace other : Workspace} {order order' : Nat → List Nat} {paths paths' : List Path}

/-- What a run gives that scans its files one after the other. -/
def serialOutcome (workspace : Workspace) (files : List Path) : Except Failure RunOutcome :=
  let collected := (Pool.runSerially workspace.scanFile files).value
  match collected.failure with
  | some failure => .error failure
  | none =>
    .ok { discovered := files.length, done := collected.results,
          summary := .ofResults collected.results }

/-- The outcome of a run is that of scanning the discovered files one after the other. -/
lemma map_value_runInOrder (horder : ∀ n, ∀ i < n, i ∈ order n) (workspace : Workspace)
    (paths : List Path) :
    (workspace.runInOrder order paths).map (·.value) =
      (Discovery.discover workspace.files workspace.settings paths).map (·.value) >>=
        workspace.serialOutcome := by
  unfold runInOrder
  cases Discovery.discover workspace.files workspace.settings paths with
  | error failure => rfl
  | ok found =>
    have hserial := (@collects_scanFiles found.value workspace _ (horder _)).eq_runSerially
    simp only [bind, Except.bind, Except.map, serialOutcome, hserial]
    cases (Pool.runSerially workspace.scanFile found.value).value.failure <;> rfl

/-- Agreeing workspaces have the same result for each file. -/
lemma AgreesWith.scanFile_eq (h : workspace.AgreesWith other) :
    workspace.scanFile = other.scanFile := by
  funext path
  unfold scanFile scanText
  rw [h.files, h.supply, h.parser, h.root, h.languages]

/-- **What the outcome of a run goes by**: nothing in which agreeing workspaces differ, the
arguments that are not missing, and not the order in which scans end. -/
lemma AgreesWith.map_value_runInOrder_eq (h : workspace.AgreesWith other)
    (horder : ∀ n, ∀ i < n, i ∈ order n) (horder' : ∀ n, ∀ i < n, i ∈ order' n)
    (hpaths : paths.filter (fun path => !workspace.files.isMissing path) =
      paths'.filter fun path => !workspace.files.isMissing path) :
    (workspace.runInOrder order paths).map (·.value) =
      (other.runInOrder order' paths').map (·.value) := by
  have hfilter : workspace.settings.fileFilter = other.settings.fileFilter := by
    rw [Settings.fileFilter, Settings.fileFilter, h.languages, h.skippedDirectories]
  have hserial : workspace.serialOutcome = other.serialOutcome := by
    funext files
    rw [serialOutcome, serialOutcome, h.scanFile_eq]
  rw [map_value_runInOrder horder, map_value_runInOrder horder', hserial, ← h.files,
    Discovery.map_value_discover_congr hfilter hpaths]

end Workspace

/-! ### Summaries -/

/-- Nothing was found when no scanned file has a diagnostic. Files that were skipped or could not be
read or parsed do not count. -/
lemma Summary.diagnostics_ofResults_eq_nil_iff (results : List FileResult) :
    (ofResults results).diagnostics = [] ↔
      ∀ result ∈ results, result.isScanned = true → result.diagnostics = [] := by
  simp [ofResults_eq]

namespace CommandLine

/-! ### Requests for a scan -/

/-- The scan that a command line asks for. -/
structure ScanRequest where
  verbosity : Verbosity
  arguments : ScanArguments

/-- The scan that a command line asks for, unless it asks for something else or its arguments cannot
be read. -/
def scanRequest? (reader : ArgumentReader) (args : List String) : Option ScanRequest :=
  match reader.group args with
  | .asked (.command verbosity .scan rest) =>
    if verbosity.verbose && verbosity.quiet then none
    else
      match reader.scan rest with
      | .asked arguments => some ⟨verbosity, arguments⟩
      | _ => none
  | _ => none

namespace ScanRequest

/-- The languages that are asked for, as they are written. -/
def languages (request : ScanRequest) : List String :=
  request.arguments.languages

/-- The format that is asked for, as it is written. -/
def format (request : ScanRequest) : String :=
  request.arguments.format.getD "terminal"

/-- The paths that are to be scanned. -/
def paths (request : ScanRequest) : List Path :=
  request.arguments.paths

/-- A format, a language or a number of workers is asked for that does not exist: a number of
workers exists if it stands for a positive number. -/
inductive IsFaulty (reader : ArgumentReader) (request : ScanRequest) : Prop
  | format (h : OutputFormat.ofName? request.format = none)
  | language (name : String) (h : name ∈ selectedNames request.languages)
      (hunknown : name ∉ Language.ids)
  | workers (value : String) (h : request.arguments.workers = some value)
      (hunknown : ∀ count, reader.workers? value = some count → count ≤ 0)

/-- The scan is carried out under some settings. -/
def IsAccepted (reader : ArgumentReader) (request : ScanRequest) (surroundings : Surroundings)
    (settings : Settings) : Prop :=
  ∃ options, scanOptions? reader request.arguments = some options ∧
    Settings.ofOptions options surroundings = .ok settings

variable {reader : ArgumentReader} {request : ScanRequest} {surroundings : Surroundings}
  {settings : Settings} {options : Options}

/-- A number of workers cannot be read if it stands for no positive number. -/
lemma readWorkers?_eq_none_iff {value : String} :
    readWorkers? reader value = none ↔
      ∀ count, reader.workers? value = some count → count ≤ 0 := by
  rw [readWorkers?, Option.filter_eq_none_iff]
  refine forall₂_congr fun count _ => ?_
  rw [minWorkers, decide_eq_true_iff]
  omega

/-- A number of workers that can be read is positive. -/
lemma pos_of_readWorkers? {value : String} {workers : Int}
    (h : readWorkers? reader value = some workers) : 0 < workers := by
  have hleast := (Option.filter_eq_some_iff.1 h).2
  rw [minWorkers, decide_eq_true_iff] at hleast
  omega

/-- What the options of a scan hold. -/
lemma of_scanOptions? (h : scanOptions? reader request.arguments = some options) :
    options.languages = request.languages ∧ options.format = request.format ∧
      ∀ workers, options.workers = some workers → 0 < workers := by
  unfold scanOptions? at h
  split at h
  · cases h
    exact ⟨rfl, rfl, by simp⟩
  · obtain ⟨chosen, hchosen, h⟩ := Option.bind_eq_some_iff.1 h
    obtain ⟨count, hcount, rfl⟩ := Option.map_eq_some_iff.1 hchosen
    cases h
    refine ⟨rfl, rfl, fun workers hworkers => ?_⟩
    obtain rfl := Option.some.inj hworkers
    exact pos_of_readWorkers? hcount

/-- The options of a scan can be read unless the number of workers cannot. -/
lemma scanOptions?_eq_none_iff :
    scanOptions? reader request.arguments = none ↔
      ∃ value, request.arguments.workers = some value ∧ readWorkers? reader value = none := by
  unfold scanOptions?
  cases request.arguments.workers with
  | none => simp
  | some value => cases hread : readWorkers? reader value <;> simp [hread]

/-- There is a number of workers unless one is asked for that is not positive. -/
lemma exists_chosenWorkers (h : ∀ workers, options.workers = some workers → 0 < workers)
    (surroundings : Surroundings) :
    ∃ workers, chosenWorkers options surroundings = .ok workers := by
  unfold chosenWorkers
  split
  · rename_i workers hworkers
    have hpos := h workers hworkers
    rw [if_neg (by omega)]
    exact ⟨_, rfl⟩
  · exact ⟨_, rfl⟩

/-- The settings of a scan are refused for its format or its languages, whatever the surroundings,
and there are settings otherwise. -/
lemma ofOptions_cases (hoptions : scanOptions? reader request.arguments = some options) :
    (request.IsFaulty reader ∧
        ∃ error, ∀ surroundings, Settings.ofOptions options surroundings = .error error) ∨
      (¬ request.IsFaulty reader ∧
        ∀ surroundings, ∃ settings, Settings.ofOptions options surroundings = .ok settings) := by
  obtain ⟨hlanguages, hformat, hworkers⟩ := of_scanOptions? hoptions
  cases hname : OutputFormat.ofName? options.format with
  | none =>
    exact .inl ⟨.format (hformat ▸ hname), _, fun _ => Settings.ofOptions_of_unknown_format hname⟩
  | some format =>
    cases hnames : normalizeLanguages options.languages with
    | error error =>
      obtain ⟨name, hmem, hunknown⟩ := normalizeLanguages_eq_error_iff.1 ⟨error, hnames⟩
      refine .inl ⟨.language name (hlanguages ▸ hmem) hunknown, error, fun surroundings => ?_⟩
      obtain ⟨workers, hchosen⟩ := exists_chosenWorkers hworkers surroundings
      rw [Settings.ofOptions_eq hname hchosen, hnames]
      rfl
    | ok languages =>
      refine .inr ⟨?_, fun surroundings => ?_⟩
      · rintro (hnone | ⟨name, hmem, hunknown⟩ | ⟨value, hvalue, hunreadable⟩)
        · rw [← hformat, hname] at hnone
          cases hnone
        · obtain ⟨error, herror⟩ :=
            normalizeLanguages_eq_error_iff.2 ⟨name, hlanguages ▸ hmem, hunknown⟩
          rw [hnames] at herror
          cases herror
        · rw [scanOptions?_eq_none_iff.2
            ⟨value, hvalue, readWorkers?_eq_none_iff.2 hunreadable⟩] at hoptions
          cases hoptions
      · obtain ⟨workers, hchosen⟩ := exists_chosenWorkers hworkers surroundings
        exact ⟨_, by rw [Settings.ofOptions_eq hname hchosen, hnames]; rfl⟩

/-- **Which scans are carried out**: those that ask for nothing that does not exist. -/
lemma exists_isAccepted_iff :
    (∃ settings, request.IsAccepted reader surroundings settings) ↔ ¬ request.IsFaulty reader := by
  constructor
  · rintro ⟨settings, options, hoptions, hsettings⟩
    rcases ofOptions_cases hoptions with ⟨-, error, herror⟩ | ⟨hfaultless, -⟩
    · rw [herror] at hsettings
      cases hsettings
    · exact hfaultless
  · intro hfaultless
    cases hoptions : scanOptions? reader request.arguments with
    | none =>
      obtain ⟨value, hvalue, hunreadable⟩ := scanOptions?_eq_none_iff.1 hoptions
      exact absurd (.workers value hvalue (readWorkers?_eq_none_iff.1 hunreadable)) hfaultless
    | some options =>
      rcases ofOptions_cases hoptions with ⟨hfaulty, -⟩ | ⟨-, hsettings⟩
      · exact absurd hfaulty hfaultless
      · obtain ⟨settings, hsettings⟩ := hsettings surroundings
        exact ⟨settings, options, hoptions, hsettings⟩

/-- What is scanned under the settings of an accepted scan. -/
lemma IsAccepted.languages_eq (h : request.IsAccepted reader surroundings settings) :
    normalizeLanguages request.languages = .ok settings.languages ∧
      settings.skippedDirectories = defaultSkippedDirectories := by
  obtain ⟨options, hoptions, hsettings⟩ := h
  obtain ⟨-, -, hlanguages, hdirectories⟩ := Settings.of_ofOptions hsettings
  rw [(of_scanOptions? hoptions).1] at hlanguages
  exact ⟨hlanguages, hdirectories⟩

end ScanRequest

/-! ### Command lines -/

variable {reader : ArgumentReader} {args : List String} {request : ScanRequest}
  {settings : Settings}

/-- A command line that asks for a scan comes to that scan. -/
lemma exists_run_eq_scan (h : scanRequest? reader args = some request) :
    ∃ rest, (∀ world : World, world.reader = reader →
        run world args = scan world request.verbosity rest) ∧
      reader.scan rest = .asked request.arguments := by
  unfold scanRequest? at h
  split at h
  · rename_i verbosity rest hgroup
    split at h
    · cases h
    · rename_i hverbosity
      split at h
      · rename_i arguments hread
        obtain rfl := Option.some.inj h
        refine ⟨rest, ?_, hread⟩
        rintro world rfl
        simp only [run, hgroup, if_neg hverbosity]
      · cases h
  · cases h

/-- A command line that asks for no scan comes to the same in every world with the same reader and
console. -/
lemma exists_run_eq_of_scanRequest?_eq_none (console : Console)
    (h : scanRequest? reader args = none) :
    ∃ outcome, ∀ world : World, world.reader = reader → world.console = console →
      run world args = .ok outcome := by
  unfold scanRequest? at h
  cases hgroup : reader.group args with
  | refused => exact ⟨.refused none, by rintro world rfl rfl; simp only [run, hgroup]⟩
  | answered text => exact ⟨.answer text, by rintro world rfl rfl; simp only [run, hgroup]⟩
  | asked request =>
    cases request with
    | version =>
      exact ⟨.answer (toolVersion ++ "\n"), by rintro world rfl rfl; simp only [run, hgroup]⟩
    | command verbosity command rest =>
      cases hverbosity : verbosity.verbose && verbosity.quiet with
      | true =>
        exact ⟨invalidValue "Choose at most one: --verbose or --quiet.", by
          rintro world rfl rfl
          simp only [run, hgroup, hverbosity, if_true]⟩
      | false =>
        cases command with
        | rules =>
          exact ⟨list reader (Listing.rules console) rest, by
            rintro world rfl rfl
            simp [run, hgroup, hverbosity]⟩
        | languages =>
          exact ⟨list reader (Listing.languages console) rest, by
            rintro world rfl rfl
            simp [run, hgroup, hverbosity]⟩
        | scan =>
          -- the arguments are refused, or the reader answers on its own
          cases hread : reader.scan rest with
          | refused =>
            exact ⟨.refused none, by
              rintro world rfl rfl
              simp [run, hgroup, hverbosity, scan, hread]⟩
          | answered text =>
            exact ⟨.answer text, by
              rintro world rfl rfl
              simp [run, hgroup, hverbosity, scan, hread]⟩
          | asked arguments => simp [hgroup, hverbosity, hread] at h

/-- A request with a fault is refused in every world alike. -/
lemma exists_refused (h : scanRequest? reader args = some request)
    (hfaulty : request.IsFaulty reader) :
    ∃ text, ∀ world : World, world.reader = reader → run world args = .ok (.refused text) := by
  obtain ⟨rest, hrun, hread⟩ := exists_run_eq_scan h
  cases hoptions : scanOptions? reader request.arguments with
  | none =>
    refine ⟨none, fun world hreader => ?_⟩
    rw [hrun world hreader]
    simp only [scan, hreader, hread, hoptions]
  | some options =>
    rcases ScanRequest.ofOptions_cases hoptions with ⟨-, error, herror⟩ | ⟨hfaultless, -⟩
    · refine ⟨some ("Invalid value: " ++ error.message), fun world hreader => ?_⟩
      rw [hrun world hreader]
      simp only [scan, hreader, hread, hoptions, herror]
      rfl
    · exact absurd hfaulty hfaultless

/-- An accepted scan is carried out. -/
lemma run_of_isAccepted {world : World} (h : scanRequest? world.reader args = some request)
    (haccepted : request.IsAccepted world.reader world.surroundings settings) :
    run world args = scanWith world request.verbosity settings request.arguments := by
  obtain ⟨rest, hrun, hread⟩ := exists_run_eq_scan h
  obtain ⟨options, hoptions, hsettings⟩ := haccepted
  rw [hrun world rfl]
  simp only [scan, hread, hoptions, hsettings]

/-! ### Scans -/

/-- **A progress bar makes no difference** to how a run ends and to what it reports. -/
lemma snd_scanWithProgress (workspace : Workspace) (endOrder : Pool.EndOrder) (shown : Bool)
    (paths : List Path) :
    (scanWithProgress workspace endOrder shown paths).2 =
      (workspace.runInOrder endOrder.order paths).map fun logged =>
        ⟨logged.events, logged.value.summary⟩ := by
  unfold scanWithProgress
  split
  · exact workspace.snd_observeLogged endOrder.order paths ProgressBar.counter .fresh
  · rfl

/-- The run of a scan. -/
def runOf (world : World) (settings : Settings) (paths : List Path) :
    Except Failure (Logged RunOutcome) :=
  (workspaceOf world settings).runInOrder world.endOrder.order paths

/-- What a scan comes to is a matter of its run. -/
lemma scanWith_eq (world : World) (verbosity : Verbosity) (settings : Settings)
    (arguments : ScanArguments) :
    scanWith world verbosity settings arguments =
      (runOf world settings arguments.paths).map fun outcome =>
        .finished (exitCode outcome.value.summary)
          (report world.console settings arguments.notes outcome.value.summary)
          (logLines verbosity (preloadEvents world.supply settings ++ outcome.events ++
            closingEvents settings outcome.value.summary))
          (scanWithProgress (workspaceOf world settings) world.endOrder
            (showsProgress world verbosity settings arguments) arguments.paths).1 := by
  have hends := snd_scanWithProgress (workspaceOf world settings) world.endOrder
    (showsProgress world verbosity settings arguments) arguments.paths
  simp only [scanWith, hends, runOf]
  cases (workspaceOf world settings).runInOrder world.endOrder.order arguments.paths <;> rfl

/-- The exit code of a scan tells whether anything was found. -/
lemma map_exitCode_scanWith (world : World) (verbosity : Verbosity) (settings : Settings)
    (arguments : ScanArguments) :
    (scanWith world verbosity settings arguments).map (·.exitCode) =
      ((runOf world settings arguments.paths).map (·.value)).map fun outcome =>
        if outcome.summary.diagnostics = [] then 0 else 1 := by
  have hcode : ∀ summary, exitCode summary = if summary.diagnostics = [] then 0 else 1 := by
    intro summary
    unfold exitCode Summary.hasDiagnostics
    cases summary.diagnostics <;> rfl
  rw [scanWith_eq]
  simp only [← hcode]
  cases runOf world settings arguments.paths <;> rfl

/-- The output of a scan is the report of its summary. -/
lemma map_output_scanWith (world : World) (verbosity : Verbosity) (settings : Settings)
    (arguments : ScanArguments) :
    (scanWith world verbosity settings arguments).map (·.output) =
      ((runOf world settings arguments.paths).map (·.value)).map fun outcome =>
        report world.console settings arguments.notes outcome.summary := by
  rw [scanWith_eq]
  cases runOf world settings arguments.paths <;> rfl

end CommandLine

/-- Two worlds have the same files, the same grammars and the same parser. They may differ in their
surroundings, in how arguments are read and reports are shown, and in the order in which scans
end. -/
structure World.AgreesWith (world other : World) : Prop where
  files : world.files = other.files
  supply : world.supply = other.supply
  parser : world.parser = other.parser

namespace CommandLine

/-- A command line is carried out as a scan. -/
structure Scans (world : World) (args : List String) (request : ScanRequest) (settings : Settings) :
    Prop where
  asked : scanRequest? world.reader args = some request
  accepted : request.IsAccepted world.reader world.surroundings settings

namespace Scans

variable {world other : World} {args args' : List String} {request request' : ScanRequest}
  {settings settings' : Settings}

/-- The exit code of a command line that is carried out as a scan. -/
lemma map_exitCode_run (h : Scans world args request settings) :
    (run world args).map (·.exitCode) =
      ((runOf world settings request.paths).map (·.value)).map fun outcome =>
        if outcome.summary.diagnostics = [] then 0 else 1 := by
  rw [run_of_isAccepted h.asked h.accepted, map_exitCode_scanWith]
  rfl

/-- Its output, if it is a document. -/
lemma map_output_run (h : Scans world args request settings) (hformat : settings.format = .json) :
    (run world args).map (·.output) =
      ((runOf world settings request.paths).map (·.value)).map fun outcome =>
        Report.renderDocument outcome.summary ++ "\n" := by
  rw [run_of_isAccepted h.asked h.accepted, map_output_scanWith]
  simp only [report, hformat]
  rfl

/-- Scans of the same files for the same languages have the same outcome. -/
lemma map_value_runOf_eq (h : Scans world args request settings)
    (h' : Scans other args' request' settings') (hworlds : world.AgreesWith other)
    (hlanguages : request.languages = request'.languages)
    (hpaths : request.paths.filter (fun path => !world.files.isMissing path) =
      request'.paths.filter fun path => !world.files.isMissing path) :
    (runOf world settings request.paths).map (·.value) =
      (runOf other settings' request'.paths).map (·.value) := by
  obtain ⟨hnames, hdirectories⟩ := h.accepted.languages_eq
  obtain ⟨hnames', hdirectories'⟩ := h'.accepted.languages_eq
  rw [hlanguages, hnames'] at hnames
  have hagrees : (workspaceOf world settings).AgreesWith (workspaceOf other settings') :=
    ⟨hworlds.files, hworlds.supply, hworlds.parser, rfl, (Except.ok.inj hnames).symm,
      hdirectories.trans hdirectories'.symm⟩
  exact hagrees.map_value_runInOrder_eq world.endOrder.mem_order other.endOrder.mem_order hpaths

end Scans

/-- **The exit code and the output of a scan.** A scan fails as its run does, and ends with code 1
if the summary of the run has a diagnostic and with code 0 otherwise; only scanned files have a say
in that. Two scans of the same files for the same languages, with missing paths among their
arguments or not, fail alike or end with the same code, whatever their other options, their
surroundings and their consoles are, with or without a progress bar, and in whatever order the files
are scanned; and their documents are the same text. A command line that asks for a format, a
language or a number of workers that does not exist ends with code 2, and in the same way in every
world in which it is read alike, so no file is read for it; any other request for a scan is carried
out. A command line that requests no scan comes to the same in every such world as well.

**Proof sketch.** What a scan comes to is a function of the outcome of its run, which a progress bar
only observes (`snd_scanWithProgress`). That outcome goes by the languages and the paths only
(`Workspace.AgreesWith.map_value_runInOrder_eq`), as the workers have no influence on the results
(`Pool.value_run`). -/
theorem scan_ends_by_findings (world : World) :
    (∀ (args : List String) (request : ScanRequest) (settings : Settings),
      Scans world args request settings →
      (run world args).map (·.exitCode) =
          (runOf world settings request.paths).map (fun outcome =>
            if outcome.value.summary.diagnostics = [] then 0 else 1) ∧
        ∀ outcome, runOf world settings request.paths = .ok outcome →
          (outcome.value.summary.diagnostics = [] ↔
            ∀ result ∈ outcome.value.done, result.isScanned = true → result.diagnostics = [])) ∧
      (∀ (other : World) (args args' : List String) (request request' : ScanRequest)
        (settings settings' : Settings), world.AgreesWith other →
        Scans world args request settings → Scans other args' request' settings' →
        request.languages = request'.languages →
        request.paths.filter (fun path => !world.files.isMissing path) =
          request'.paths.filter (fun path => !world.files.isMissing path) →
        (run world args).map (·.exitCode) = (run other args').map (·.exitCode) ∧
          (settings.format = .json → settings'.format = .json →
            (run world args).map (·.output) = (run other args').map (·.output))) ∧
      (∀ (args : List String) (request : ScanRequest),
        scanRequest? world.reader args = some request →
        (request.IsFaulty world.reader → ∃ outcome : CommandOutcome, outcome.exitCode = 2 ∧
          ∀ other : World, other.reader = world.reader → run other args = .ok outcome) ∧
        ((∃ settings, Scans world args request settings) ↔ ¬ request.IsFaulty world.reader)) ∧
      ∀ args, scanRequest? world.reader args = none →
        ∃ outcome, ∀ other : World, other.reader = world.reader →
          other.console = world.console → run other args = .ok outcome := by
  refine ⟨fun args request settings h => ⟨?_, fun outcome houtcome => ?_⟩, ?_, ?_,
    fun args h => exists_run_eq_of_scanRequest?_eq_none world.console h⟩
  · rw [h.map_exitCode_run]
    cases runOf world settings request.paths <;> rfl
  · obtain ⟨-, -, -, -, hsummary⟩ := Workspace.exists_discover_of_runInOrder
      world.endOrder.mem_order houtcome
    rw [hsummary, Summary.diagnostics_ofResults_eq_nil_iff]
  · intro other args args' request request' settings settings' hworlds h h' hlanguages hpaths
    have hsame := h.map_value_runOf_eq h' hworlds hlanguages hpaths
    refine ⟨?_, fun hformat hformat' => ?_⟩
    · rw [h.map_exitCode_run, h'.map_exitCode_run, hsame]
    · rw [h.map_output_run hformat, h'.map_output_run hformat', hsame]
  · intro args request hrequest
    refine ⟨fun hfaulty => ?_, ?_⟩
    · obtain ⟨text, htext⟩ := exists_refused hrequest hfaulty
      exact ⟨.refused text, rfl, htext⟩
    · rw [← ScanRequest.exists_isAccepted_iff]
      constructor
      · rintro ⟨settings, h⟩
        exact ⟨settings, h.accepted⟩
      · rintro ⟨settings, haccepted⟩
        exact ⟨settings, hrequest, haccepted⟩

/-- A world with one file, in which something is found. -/
def desk : World where
  files := ⟨[("w", .directory [("a.py", .file (.ok (Utf8.encode Scan.sampleText.toList)))])],
    ["w"]⟩
  parser _ _ := .tree Scan.sampleTree false

/-- The argument leads to the file. -/
lemma lookup_desk_file : desk.files.lookup (Path.ofString "a.py") =
    .ok (["w", "a.py"], .file (.ok (Utf8.encode Scan.sampleText.toList))) :=
  FileSystem.locate_name (by decide) (by decide)

/-- The argument resolves to the place of the file. -/
lemma resolve_desk_file :
    desk.files.resolve (Path.ofString "a.py") = .ok (Path.ofString "/w/a.py") := by
  have hlookup : desk.files.lookup (Path.ofString "/w/a.py") = .ok (["w", "a.py"], .file _) :=
    (FileSystem.locate_name (by decide) (by decide)).trans lookup_desk_file
  refine FileSystem.resolve_eq_ok_iff.2 ⟨_, FileSystem.follow_singleton (by decide) rfl, rfl,
    by decide, ?_⟩
  simp [hlookup]

/-- Whatever the settings, the file is all that is discovered. -/
lemma map_value_discover_desk (settings : Settings) :
    (Discovery.discover desk.files settings [Path.ofString "a.py"]).map (·.value) =
      .ok [Path.ofString "a.py"] := by
  have hisFile : desk.files.isFile (Path.ofString "a.py") = .ok true := by
    rw [FileSystem.isFile, lookup_desk_file]
  simp only [Discovery.discover, Discovery.expandAll, Discovery.expand, hisFile, bind, Except.bind,
    if_true, pure, Except.pure, Discovery.withResolved, resolve_desk_file]
  rfl

/-- The file is called by its name. -/
lemma displayPath_desk :
    desk.files.displayPath (Path.ofString ".") (Path.ofString "a.py") = .ok "a.py" := by
  have hroot := @FileSystem.resolve_working desk.files ⟨by decide, _, rfl⟩
  simp only [FileSystem.displayPath, resolve_desk_file, hroot]
  rfl

/-- Something is found in the file. -/
lemma exists_gives_desk {settings : Settings} (h : settings.languages = Language.ids) :
    ∃ result, Pool.Gives (workspaceOf desk settings).scanFile (Path.ofString "a.py") result ∧
      result.isScanned = true ∧ result.diagnostics ≠ [] := by
  obtain ⟨language, hlanguage, hid, hload, hbuild, hfound⟩ : ∃ language,
      Language.ofExtension? (Path.ofString "a.py").extension = some language ∧
        language.id = "python" ∧ desk.supply.isLoadable language.grammar = true ∧
        desk.supply.obstacle? language.grammar = none ∧
        Scan.diagnostics [] (.ofText "a.py" language Scan.sampleText) Scan.sampleTree ≠ [] :=
    ⟨_, rfl, by decide, by decide, by decide, by decide +kernel⟩
  have hfile : (workspaceOf desk settings).scanFile (Path.ofString "a.py") =
      (workspaceOf desk settings).scanText "a.py" language Scan.sampleText := by
    have hread : desk.files.read (Path.ofString "a.py") =
        .ok (Utf8.encode Scan.sampleText.toList) := by
      rw [FileSystem.read, lookup_desk_file]
    have henabled : language.id ∈ settings.languages := by
      rw [h, hid]
      decide
    simp [Workspace.scanFile, workspaceOf, displayPath_desk, hlanguage, henabled, hread,
      Utf8.decode_encode, bind, Except.bind]
  have hparser : (Loader.fresh.obtainParser desk.supply
      (Source.ofText "a.py" language Scan.sampleText).language.grammar).answer = none :=
    Scan.answer_obtainParser_fresh hload hbuild
  have hscan := Scan.value_scan_tree hparser [] Scan.sampleTree false
  have htext : ∃ events, (workspaceOf desk settings).scanText "a.py" language Scan.sampleText =
      .ok ⟨events, { file := "a.py", language := some language.id, diagnostics :=
        Scan.diagnostics [] (.ofText "a.py" language Scan.sampleText) Scan.sampleTree }⟩ := by
    simp only [Workspace.scanText, workspaceOf, desk, Source.ofText] at hscan ⊢
    rw [hscan]
    exact ⟨_, rfl⟩
  obtain ⟨events, htext⟩ := htext
  exact ⟨_, ⟨events, hfile.trans htext⟩, rfl, hfound⟩

/-- A run over the file gives a diagnostic. -/
lemma exists_runOf_desk {settings : Settings} (h : settings.languages = Language.ids) :
    ∃ outcome, runOf desk settings [Path.ofString "a.py"] = .ok outcome ∧
      outcome.value.summary.diagnostics ≠ [] := by
  obtain ⟨result, ⟨events, hresult⟩, hscanned, hfound⟩ := exists_gives_desk h
  have hdiscover : (Discovery.discover (workspaceOf desk settings).files
      (workspaceOf desk settings).settings [Path.ofString "a.py"]).map (·.value) =
        .ok [Path.ofString "a.py"] := map_value_discover_desk settings
  have hrun := Workspace.map_value_runInOrder desk.endOrder.mem_order (workspaceOf desk settings)
    [Path.ofString "a.py"]
  simp only [hdiscover, bind, Except.bind, Workspace.serialOutcome, Pool.runSerially,
    hresult] at hrun
  rw [runOf]
  cases houtcome : (workspaceOf desk settings).runInOrder desk.endOrder.order
      [Path.ofString "a.py"] with
  | error failure =>
    rw [houtcome] at hrun
    cases hrun
  | ok outcome =>
    rw [houtcome] at hrun
    have hvalue : outcome.value = _ := Except.ok.inj hrun
    refine ⟨outcome, rfl, fun hnil => hfound ?_⟩
    rw [hvalue, Summary.diagnostics_ofResults_eq_nil_iff] at hnil
    exact hnil result (List.mem_singleton_self _) hscanned

/-- The same files where eight workers and no colours are asked for, and in front of a terminal. The
scans end in reverse order. -/
def stage : World where
  files := desk.files
  parser := desk.parser
  surroundings :=
    { environment := [("SLOPLINT_WORKERS", "8"), ("NO_COLOR", "1")], interactive := true }
  console := .plain true
  endOrder := ⟨fun n => (List.range n).reverse,
    fun _ _ h => List.mem_reverse.2 (List.mem_range.2 h)⟩

/-- A command line for the file. -/
def tersely : List String :=
  ["scan", "a.py", "--format", "json", "--workers", "2"]

/-- The same with more to say, and with a path that leads to nothing. -/
def wordily : List String :=
  ["-v", "scan", "gone.py", "--notes", "a.py", "--color", "--format=json"]

/-- The same with a progress bar. -/
def watched : List String :=
  ["scan", "--progress", "a.py"]

/-- Three command lines for the same file: one in few words, one in many, one with a progress bar;
and a fourth one that is refused. -/
theorem scan_ends_by_findings_desk :
    ∃ request request' request'' settings settings' settings'',
      Scans desk tersely request settings ∧ Scans stage wordily request' settings' ∧
      Scans stage watched request'' settings'' ∧ desk.AgreesWith stage ∧
      settings.workers = 2 ∧ settings'.workers = 8 ∧ settings.format = .json ∧
      settings'.format = .json ∧
      showsProgress stage request''.verbosity settings'' request''.arguments = true ∧
      request.languages = request'.languages ∧ request.languages = request''.languages ∧
      request.paths.filter (fun path => !desk.files.isMissing path) =
        request'.paths.filter (fun path => !desk.files.isMissing path) ∧
      (run desk tersely).map (·.exitCode) = .ok 1 ∧
      (run stage wordily).map (·.exitCode) = .ok 1 ∧
      (run stage watched).map (·.exitCode) = .ok 1 ∧
      (run desk tersely).map (·.output) = (run stage wordily).map (·.output) ∧
      ∃ outcome : CommandOutcome, outcome.exitCode = 2 ∧
        ∀ other : World, other.reader = desk.reader →
          run other ["scan", "a.py", "--workers", "0"] = .ok outcome := by
  obtain ⟨hcode, hsame, hrefuses, -⟩ := scan_ends_by_findings desk
  have hscans : Scans desk tersely
      ⟨⟨false, false⟩,
        { paths := [Path.ofString "a.py"], format := some "json", workers := some "2" }⟩
      { workers := 2, format := .json } :=
    ⟨rfl, _, rfl, rfl⟩
  have hscans' : Scans stage wordily
      ⟨⟨true, false⟩,
        { paths := [Path.ofString "gone.py", Path.ofString "a.py"], format := some "json"
          color := some true, notes := true }⟩
      { workers := 8, format := .json } :=
    ⟨rfl, _, rfl, rfl⟩
  have hscans'' : Scans stage watched
      ⟨⟨false, false⟩, { paths := [Path.ofString "a.py"], progress := some true }⟩
      { workers := 8, color := false } :=
    ⟨rfl, _, rfl, rfl⟩
  have hworlds : desk.AgreesWith stage := ⟨rfl, rfl, rfl⟩
  have hfile : desk.files.isMissing (Path.ofString "a.py") = false := by
    simp [FileSystem.isMissing, FileSystem.isFile, lookup_desk_file]
  have hgone : desk.files.isMissing (Path.ofString "gone.py") = true := by
    have hlookup : desk.files.lookup (Path.ofString "gone.py") = .error .notFound :=
      FileSystem.locate_name (by decide) (by decide)
    simp [FileSystem.isMissing, FileSystem.isFile, FileSystem.directory?, hlookup]
  have hpaths : [Path.ofString "a.py"].filter (fun path => !desk.files.isMissing path) =
      [Path.ofString "gone.py", Path.ofString "a.py"].filter
        fun path => !desk.files.isMissing path := by
    simp [hfile, hgone]
  obtain ⟨hcodes, houtputs⟩ := hsame _ _ _ _ _ _ _ hworlds hscans hscans' rfl hpaths
  obtain ⟨hwatched, -⟩ := hsame _ _ _ _ _ _ _ hworlds hscans hscans'' rfl rfl
  have hone : (run desk tersely).map (·.exitCode) = .ok 1 := by
    obtain ⟨outcome, hrun, hfound⟩ := @exists_runOf_desk { workers := 2, format := .json } rfl
    have hpart := (hcode _ _ _ hscans).1.trans (congrArg _ hrun)
    simpa [Except.map, hfound] using hpart
  refine ⟨_, _, _, _, _, _, hscans, hscans', hscans'', hworlds, rfl, rfl, rfl, rfl, rfl, rfl, rfl,
    hpaths, hone, hcodes.symm.trans hone, hwatched.symm.trans hone, houtputs rfl rfl, ?_⟩
  refine (hrefuses ["scan", "a.py", "--workers", "0"] _ rfl).1 (.workers "0" rfl ?_)
  intro count hcount
  cases hcount

end CommandLine

end SourceLint
