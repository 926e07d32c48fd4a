import SourceLint.Language.Catalogue
import SourceLint.Text.Integer
import SourceLint.Text.Quoted

set_option autoImplicit false

/-!
# Settings

The settings of a run come from options, with two environment variables as fallbacks: one for the
number of workers and one that turns colours off. There is always at least one worker and never
more than 32, and there is always at least one language.

## Main definitions

* `Settings` — the settings of a run.
* `ConfigError` — why options are refused.
* `workerCount` — the number of workers that an environment variable asks for.
* `normalizeLanguages` — the languages that a selection names.
* `Settings.ofOptions` — the settings that options and environment ask for.
-/

namespace SourceLint

/-- The forms of a report. -/
inductive OutputFormat
  | terminal
  | json
deriving DecidableEq, Repr

/-- The name of a format. -/
def OutputFormat.name : OutputFormat → String
  | .terminal => "terminal"
  | .json => "json"

/-- The formats in the order of listings. -/
def OutputFormat.all : List OutputFormat :=
  [.terminal, .json]

/-- The format of a name, in any letter case and with blanks around it. -/
def OutputFormat.ofName? (name : String) : Option OutputFormat :=
  all.find? (·.name == Language.normalized name)

/-- Why options are refused. -/
inductive ConfigError
  | unknownFormat (name : String)
  | workersNotPositive
  | unknownLanguage (name : String)
deriving DecidableEq, Repr

/-- The words for refused options. -/
def ConfigError.message : ConfigError → String
  | .unknownFormat name =>
    "Unsupported format " ++ Text.quote name ++ ". Use: " ++
      Text.joinWith ", " (OutputFormat.all.map (·.name)) ++ "."
  | .workersNotPositive => "--workers must be a positive integer."
  | .unknownLanguage name =>
    "Unknown language " ++ Text.quote name ++ ". Use one of: " ++
      Text.joinWith ", " Language.ids ++ "."

/-- The names of directories that are not entered unless settings say otherwise. -/
def defaultSkippedDirectories : List String :=
  [".git", ".hg", ".svn", ".idea", ".vscode", ".venv", "venv", "node_modules", "dist", "build",
    "out", ".next", "vendor", "target", "__pycache__"]

/-- The settings of a run. -/
structure Settings where
  languages : List String := Language.ids
  workers : Int := 1
  format : OutputFormat := .terminal
  color : Bool := true
  skippedDirectories : List String := defaultSkippedDirectories

/-- The greatest number of workers. -/
def maxWorkers : Int := 32

/-- The number of workers that a variable asks for. Without a value, and for `auto`, `default` and
anything that is no positive integer, it is the default, which is at least one; without a default it
is twice the number of processors. In any case it is at most `limit`. -/
def workerCount (raw : Option String) (fallback : Option Int) (limit : Int)
    (processors : Option Int) : Int :=
  let cores : Int :=
    match processors with
    | none | some 0 => 1
    | some n => n
  let usual := min (max 1 (fallback.getD (cores * 2))) limit
  match raw with
  | none => usual
  | some raw =>
    let value := Language.normalized raw
    if value = "" ∨ value = "auto" ∨ value = "default" then usual
    else
      match Text.readInt? value.toList with
      | some workers => if workers ≤ 0 then usual else min workers limit
      | none => usual

/-- The names in a selection of languages: its parts between commas, without blanks at their ends
and in lower case, the empty ones left out. -/
def selectedNames (values : List String) : List String :=
  ((values.flatMap (Text.splitString ',')).map Language.normalized).filter (· != "")

/-- The languages that a selection names, in the order of first mention; all languages when it
names none. The first name that is unknown refuses the selection. -/
def normalizeLanguages (values : List String) : Except ConfigError (List String) :=
  let names := selectedNames values
  match names.find? fun name => !Language.ids.contains name with
  | some name => .error (.unknownLanguage name)
  | none => .ok (if names.isEmpty then Language.ids else names.eraseDups)

/-- The options of a run; a missing one was not given. -/
structure Options where
  languages : List String := []
  workers : Option Int := none
  format : String := "terminal"
  color : Option Bool := none

/-- The surroundings of a run: the environment variables, the number of processors if it is known,
and whether standard error goes to a terminal. -/
structure Surroundings where
  environment : List (String × String) := []
  processors : Option Int := none
  interactive : Bool := false

/-- The value of an environment variable. -/
def Surroundings.valueOf? (surroundings : Surroundings) (name : String) : Option String :=
  (surroundings.environment.find? (·.1 == name)).map (·.2)

/-- Whether the environment asks for colours: a variable turns them off when it has any value but
the empty one. -/
def Surroundings.wantsColor (surroundings : Surroundings) : Bool :=
  ((surroundings.valueOf? "NO_COLOR").getD "").isEmpty

/-- The number of workers that options and environment ask for. -/
def chosenWorkers (options : Options) (surroundings : Surroundings) : Except ConfigError Int :=
  match options.workers with
  | some workers => if workers ≤ 0 then .error .workersNotPositive else .ok (min workers maxWorkers)
  | none =>
    .ok (workerCount (surroundings.valueOf? "SLOPLINT_WORKERS") none maxWorkers
      surroundings.processors)

/-- The settings that options and environment ask for. Of several faults the one in the format is
reported before the one in the workers, and that before the one in the languages. -/
def Settings.ofOptions (options : Options) (surroundings : Surroundings) :
    Except ConfigError Settings := do
  let format ←
    match OutputFormat.ofName? options.format with
    | some format => .ok format
    | none => .error (.unknownFormat options.format)
  let workers ← chosenWorkers options surroundings
  let languages ← normalizeLanguages options.languages
  return {
    languages := languages
    workers := workers
    format := format
    color := options.color.getD surroundings.wantsColor }

end SourceLint
