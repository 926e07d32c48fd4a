import SourceLint.CommandLine.Reader
import SourceLint.Report.Document
import SourceLint.Report.Listing
import SourceLint.Report.Terminal
import SourceLint.Run.Observer
import SourceLint.Text.Lines

set_option autoImplicit false

/-!
# The commands

The command line has options of its own, which set how much is logged, and three commands: one
scans paths, the other two list the rules and the languages. A command line is refused as a whole
when its arguments cannot be read, or give no positive number of workers; when they ask for a format
or a language that does not exist, it is refused with a text. In either case nothing is scanned.

A scan may show a progress bar, in which case it is observed. It ends with code 1 when anything was
found and with code 0 otherwise, whatever else happened.

How arguments are read, what a console makes of a report, and in which order the scans of a pool end
is given with the world in which a command is carried out.

## Main definitions

* `World` — all that a command works on.
* `CommandOutcome` — what a command line comes to.
* `ProgressBar` — what a progress bar shows.
* `CommandLine.scanWithProgress` — a run with or without a progress bar.
* `CommandLine.scan` — the scanning of paths.
* `CommandLine.run` — a whole command line.
-/

namespace SourceLint

/-- The files, the grammars, the parser and the surroundings that a command works on, with the
reader of its arguments, the console for its reports, and the order in which its scans end. -/
structure World where
  files : FileSystem
  supply : GrammarSupply := {}
  parser : Parser := fun _ _ => .nothing
  surroundings : Surroundings := {}
  reader : ArgumentReader := .usual
  console : Console := .plain false
  endOrder : Pool.EndOrder := .submitted

/-- What a progress bar shows: what goes on, how much there is to do, once this is known, and how
much of it is done. -/
structure ProgressBar where
  description : String
  total : Option Nat
  completed : Nat
deriving DecidableEq, Repr

namespace ProgressBar

/-- The bar before a scan. -/
def fresh : ProgressBar := ⟨"Scan", none, 0⟩

/-- The bar observes a run: it counts the files that are done. -/
def counter : Observer ProgressBar where
  discovered total bar := { bar with total := some total, completed := 0 }
  done _ bar := { bar with completed := bar.completed + 1 }

end ProgressBar

/-- What a command line comes to. -/
inductive CommandOutcome
  /-- It was carried out: its exit code, what it wrote, what it reported, and what the progress bar
  showed last, if there was one. -/
  | finished (code : Nat) (output : String) (log : List String) (bar : Option ProgressBar)
  /-- It was refused, with or without a text. -/
  | refused (text : Option String)
deriving DecidableEq, Repr

namespace CommandOutcome

/-- The code with which the program ends. -/
def exitCode : CommandOutcome → Nat
  | .finished code _ _ _ => code
  | .refused _ => 2

/-- What is written to standard output. -/
def output : CommandOutcome → String
  | .finished _ output _ _ => output
  | .refused _ => ""

/-- A text is written, and that is all. -/
def answer (text : String) : CommandOutcome :=
  .finished 0 text [] none

end CommandOutcome

namespace CommandLine

/-- The log lines of events; a message of several lines takes as many. -/
def logLines (verbosity : Verbosity) (events : List Event) : List String :=
  (Event.shownAt (.ofVerbosity verbosity.verbose verbosity.quiet) events).flatMap fun event =>
    (Text.visualLines (event.logLine verbosity.verbose ++ "\n").toList).map String.ofList

/-- A refusal with the text for a value that does not exist. -/
def invalidValue (text : String) : CommandOutcome :=
  .refused (some ("Invalid value: " ++ text))

/-- The least number of workers that may be asked for. -/
def minWorkers : Int := 1

/-- The number of workers that a written number stands for, which is at least one. -/
def readWorkers? (reader : ArgumentReader) (value : String) : Option Int :=
  (reader.workers? value).filter (minWorkers ≤ ·)

/-- The options of a scan, unless the number of workers cannot be read. -/
def scanOptions? (reader : ArgumentReader) (arguments : ScanArguments) : Option Options := do
  let workers ←
    match arguments.workers with
    | none => some none
    | some value => (readWorkers? reader value).map some
  return {
    languages := arguments.languages
    workers := workers
    format := arguments.format.getD "terminal"
    color := arguments.color }

/-- The workspace of a scan. -/
def workspaceOf (world : World) (settings : Settings) : Workspace where
  files := world.files
  supply := world.supply
  parser := world.parser
  settings := settings
  root := .ofString "."

/-- Whether a scan shows a progress bar: it does unless it is told not to, it is to be quiet, its
report is a document, or standard error does not go to a terminal. -/
def showsProgress (world : World) (verbosity : Verbosity) (settings : Settings)
    (arguments : ScanArguments) : Bool :=
  arguments.progress.getD true && !verbosity.quiet && settings.format = .terminal &&
    world.surroundings.interactive

/-- A run with or without a progress bar: what the bar showed last, and how the run ends. -/
def scanWithProgress (workspace : Workspace) (endOrder : Pool.EndOrder) (shown : Bool)
    (paths : List Path) : Option ProgressBar × Except Failure (Logged Summary) :=
  if shown then
    let observed := workspace.observeLogged ProgressBar.counter endOrder.order paths .fresh
    (some observed.1, observed.2)
  else
    (none, (workspace.runInOrder endOrder.order paths).map fun logged =>
      ⟨logged.events, logged.value.summary⟩)

/-- The report of a run. -/
def report (console : Console) (settings : Settings) (notes : Bool) (summary : Summary) : String :=
  match settings.format with
  | .json => Report.renderDocument summary ++ "\n"
  | .terminal => Report.renderTerminal console settings.color notes summary

/-- What is reported of a run that found nothing. -/
def closingEvents (settings : Settings) (summary : Summary) : List Event :=
  if settings.format = .terminal && !summary.hasDiagnostics then
    [.noProblems summary.filesScanned]
  else []

/-- The exit code of a scan. -/
def exitCode (summary : Summary) : Nat :=
  if summary.hasDiagnostics then 1 else 0

/-- What is reported of the grammars before a scan: those that cannot be loaded, and the enabled
languages that lack theirs. -/
def preloadEvents (supply : GrammarSupply) (settings : Settings) : List Event :=
  let loaded := Loader.fresh.preload supply Language.all
  let lacking := settings.languages.filter fun language => !loaded.answer.contains language
  loaded.events ++ (if lacking.isEmpty then [] else [.languagesUnavailable lacking])

/-- A scan under settings. -/
def scanWith (world : World) (verbosity : Verbosity) (settings : Settings)
    (arguments : ScanArguments) : Except Failure CommandOutcome := do
  let (bar, ended) := scanWithProgress (workspaceOf world settings) world.endOrder
    (showsProgress world verbosity settings arguments) arguments.paths
  let scanned ← ended
  let summary := scanned.value
  let events :=
    preloadEvents world.supply settings ++ scanned.events ++ closingEvents settings summary
  return .finished (exitCode summary) (report world.console settings arguments.notes summary)
    (logLines verbosity events) bar

/-- The scanning of paths. -/
def scan (world : World) (verbosity : Verbosity) (args : List String) :
    Except Failure CommandOutcome :=
  match world.reader.scan args with
  | .refused => .ok (.refused none)
  | .answered text => .ok (.answer text)
  | .asked arguments =>
    match scanOptions? world.reader arguments with
    | none => .ok (.refused none)
    | some options =>
      match Settings.ofOptions options world.surroundings with
      | .error error => .ok (invalidValue error.message)
      | .ok settings => scanWith world verbosity settings arguments

/-- A listing. -/
def list (reader : ArgumentReader) (listing : OutputFormat → String) (args : List String) :
    CommandOutcome :=
  match reader.listing args with
  | .refused => .refused none
  | .answered text => .answer text
  | .asked format =>
    match OutputFormat.ofName? (format.getD "terminal") with
    | some format => .answer (listing format)
    | none => invalidValue "Unsupported format. Use: terminal, json."

/-- A whole command line. -/
def run (world : World) (args : List String) : Except Failure CommandOutcome :=
  match world.reader.group args with
  | .refused => .ok (.refused none)
  | .answered text => .ok (.answer text)
  | .asked .version => .ok (.answer (toolVersion ++ "\n"))
  | .asked (.command verbosity command rest) =>
    if verbosity.verbose && verbosity.quiet then
      .ok (invalidValue "Choose at most one: --verbose or --quiet.")
    else
      match command with
      | .scan => scan world verbosity rest
      | .rules => .ok (list world.reader (Listing.rules world.console) rest)
      | .languages => .ok (list world.reader (Listing.languages world.console) rest)

end CommandLine

end SourceLint
