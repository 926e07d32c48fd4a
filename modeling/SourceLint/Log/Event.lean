import SourceLint.Text.Decimal
import SourceLint.Text.Quoted
import SourceLint.Text.Split

set_option autoImplicit false

/-!
# Log events

Whatever the linter reports besides its findings is an event. Events are told by their cause; the
level, the channel and the words of each are fixed here and nowhere else. A threshold decides which
levels are shown.

## Main definitions

* `LogLevel` — debug, info and warning, in ascending order.
* `Event` — what can be reported.
* `Event.level`, `Event.channel`, `Event.message` — how an event is reported.
* `Event.shownAt` — the events that a threshold lets through.
-/

namespace SourceLint

/-- The levels of log events, in ascending order. -/
inductive LogLevel
  | debug
  | info
  | warning
deriving DecidableEq, Repr

namespace LogLevel

/-- The name of a level in log lines. -/
def name : LogLevel → String
  | .debug => "DEBUG"
  | .info => "INFO"
  | .warning => "WARNING"

/-- The number of a level; greater numbers are more severe. -/
def severity : LogLevel → Nat
  | .debug => 10
  | .info => 20
  | .warning => 30

/-- The level of a name. -/
def ofName? (name : String) : Option LogLevel :=
  [debug, info, warning].find? (·.name == name)

/-- The threshold that the verbosity options ask for. -/
def ofVerbosity (verbose quiet : Bool) : LogLevel :=
  if verbose then .debug else if quiet then .warning else .info

end LogLevel

/-- Something that is reported besides the findings. -/
inductive Event
  /-- A grammar could not be loaded in advance. -/
  | grammarMissing (grammar : String)
  /-- The grammars of these languages have been loaded in advance. -/
  | grammarsLoaded (languages : List String)
  /-- The tree was recovered from a source with errors. -/
  | recoveredTree (grammar : String)
  /-- A rule failed on a node. -/
  | ruleFailed (rule kind file reason : String)
  /-- A path leads to nothing. -/
  | pathMissing (path : String)
  /-- So many files were discovered. -/
  | filesDiscovered (count : Nat)
  /-- No language claims the file. -/
  | unsupportedFile (file : String)
  /-- The language of the file is not enabled. -/
  | languageDisabled (file language : String)
  /-- The file cannot be read. -/
  | unreadableFile (file reason : String)
  /-- The file cannot be parsed. -/
  | unparsableFile (file language reason : String)
  /-- The file was scanned with so many findings. -/
  | fileScanned (file : String) (findings : Nat)
  /-- The grammars of enabled languages are not available. -/
  | languagesUnavailable (languages : List String)
  /-- Nothing was found in so many files. -/
  | noProblems (files : Int)
deriving DecidableEq, Repr

/-- The words for a file that cannot be parsed. -/
def unparsableText (file language reason : String) : String :=
  file ++ ": cannot parse as " ++ language ++ ": " ++ reason

/-- The words for a grammar that is not available. -/
def grammarMissingText (grammar : String) : String :=
  "tree-sitter grammar not available: " ++ Text.quote grammar

namespace Event

/-- The level of an event. -/
def level : Event → LogLevel
  | .grammarMissing _ => .warning
  | .grammarsLoaded _ => .debug
  | .recoveredTree _ => .debug
  | .ruleFailed .. => .warning
  | .pathMissing _ => .warning
  | .filesDiscovered _ => .debug
  | .unsupportedFile _ => .warning
  | .languageDisabled .. => .info
  | .unreadableFile .. => .warning
  | .unparsableFile .. => .warning
  | .fileScanned .. => .debug
  | .languagesUnavailable _ => .warning
  | .noProblems _ => .info

/-- The channel on which an event is reported. -/
def channel : Event → String
  | .grammarMissing _ | .grammarsLoaded _ | .recoveredTree _ => "sloplint.engine.tree_sitter"
  | .ruleFailed .. => "sloplint.engine.detection"
  | .pathMissing _ | .filesDiscovered _ | .unsupportedFile _ | .languageDisabled ..
  | .unreadableFile .. | .unparsableFile .. | .fileScanned .. => "sloplint.scanner"
  | .languagesUnavailable _ | .noProblems _ => "sloplint.cli"

/-- The words of an event. -/
def message : Event → String
  | .grammarMissing grammar => grammarMissingText grammar
  | .grammarsLoaded languages =>
    "loaded " ++ Text.decimal languages.length ++ " tree-sitter grammar(s): " ++
      Text.joinWith ", " languages
  | .recoveredTree grammar =>
    grammar ++ " source contains syntax errors; scanning the recovered tree"
  | .ruleFailed rule kind file reason =>
    "rule " ++ rule ++ " failed on " ++ Text.quote kind ++ " node in " ++ file ++ ": " ++ reason
  | .pathMissing path => path ++ ": No such file or directory"
  | .filesDiscovered count => "discovered " ++ Text.decimal count ++ " candidate file(s)"
  | .unsupportedFile file => "unsupported language for " ++ Text.quote file ++ "; skipping"
  | .languageDisabled file language =>
    file ++ ": language " ++ Text.quote language ++ " is not enabled; skipping"
  | .unreadableFile file reason => file ++ ": cannot read file: " ++ reason
  | .unparsableFile file language reason => unparsableText file language reason
  | .fileScanned file findings => file ++ ": " ++ Text.decimal findings ++ " diagnostic(s)"
  | .languagesUnavailable languages =>
    "grammar unavailable for: " ++ Text.joinWith ", " languages
  | .noProblems files => "no problems found in " ++ Text.decimal files ++ " file(s)"

/-- Whether an event is reported with a trace of where it arose: a failed rule is, when the
threshold lets debug events through. -/
def isTraced (threshold : LogLevel) : Event → Bool
  | .ruleFailed .. => threshold == .debug
  | _ => false

/-- Whether a threshold lets an event through. -/
def isShownAt (threshold : LogLevel) (event : Event) : Bool :=
  threshold.severity ≤ event.level.severity

/-- The events that a threshold lets through. -/
def shownAt (threshold : LogLevel) (events : List Event) : List Event :=
  events.filter (·.isShownAt threshold)

/-- The line of an event in the log of the command line: verbose lines name the level and the
channel. -/
def logLine (verbose : Bool) (event : Event) : String :=
  if verbose then
    "sloplint [" ++ event.level.name ++ "] " ++ event.channel ++ ": " ++ event.message
  else "sloplint: " ++ event.message

end Event

end SourceLint
