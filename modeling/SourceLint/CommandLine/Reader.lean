import SourceLint.CommandLine.Arguments
import SourceLint.Path
import SourceLint.Text.Count

set_option autoImplicit false

/-!
# Readers of command lines

Which options a command line gives and which operands is up to a reader of arguments. It reads a
command line in two steps: first the options before the command, and the command with the arguments
that are left, and then these arguments. It may answer on its own, with a help text for example, or
refuse the arguments. A reader also knows which number a written number of workers stands for. What
is not given has its usual value, and this is not up to the reader.

A reader is any collection of such functions. The usual reader has the usual syntax of options.

## Main definitions

* `Reading` — what comes of reading arguments.
* `GroupRequest`, `ScanArguments` — what arguments ask for.
* `ArgumentReader` — how arguments are read.
* `ArgumentReader.usual` — the usual reader.
-/

namespace SourceLint

/-- What comes of reading arguments. -/
inductive Reading (α : Type)
  /-- They ask for something. -/
  | asked (request : α)
  /-- The reader answers on its own. -/
  | answered (text : String)
  /-- They are refused. -/
  | refused

/-- The commands. -/
inductive Command
  | scan
  | rules
  | languages
deriving DecidableEq, Repr

/-- How much is logged. -/
structure Verbosity where
  verbose : Bool
  quiet : Bool
deriving DecidableEq, Repr

/-- What a command line asks for: the version, or a command with its arguments. -/
inductive GroupRequest
  | version
  | command (verbosity : Verbosity) (command : Command) (arguments : List String)
deriving DecidableEq, Repr

/-- What the arguments of a scan ask for. The format, the languages and the number of workers are
given as they are written; what is missing was not given. -/
structure ScanArguments where
  paths : List Path
  format : Option String := none
  languages : List String := []
  workers : Option String := none
  color : Option Bool := none
  notes : Bool := false
  progress : Option Bool := none

/-- How arguments are read. -/
structure ArgumentReader where
  /-- The options before a command, and the command. -/
  group : List String → Reading GroupRequest
  /-- The arguments of a scan. -/
  scan : List String → Reading ScanArguments
  /-- The arguments of a listing: the format, if it is given. -/
  listing : List String → Reading (Option String)
  /-- The number that a written number of workers stands for. -/
  workers? : String → Option Int

/-- A short text on how the command line is used. -/
def usageText : String := "Usage: sloplint [OPTIONS] COMMAND [ARGS]...\n"

/-- The command of a name. -/
def Command.ofName? : String → Option Command
  | "scan" => some .scan
  | "rules" => some .rules
  | "languages" => some .languages
  | _ => none

namespace ArgumentReader

/-- The options before the command. -/
inductive GroupOption
  | version
  | verbose
  | quiet
  | help
deriving DecidableEq, Repr

/-- The options of a scan. -/
inductive ScanOption
  | format
  | language
  | workers
  | color (on : Bool)
  | notes
  | progress (on : Bool)
  | help
deriving DecidableEq, Repr

/-- The options of a listing. -/
inductive ListingOption
  | format
  | help
deriving DecidableEq, Repr

/-- The spellings of the options before the command. -/
def groupSpecs : List (OptionSpec GroupOption) :=
  [⟨"--version", .version, false⟩, ⟨"--verbose", .verbose, false⟩, ⟨"-v", .verbose, false⟩,
    ⟨"--quiet", .quiet, false⟩, ⟨"-q", .quiet, false⟩, ⟨"--help", .help, false⟩]

/-- The spellings of the options of a scan. -/
def scanSpecs : List (OptionSpec ScanOption) :=
  [⟨"--format", .format, true⟩, ⟨"--language", .language, true⟩, ⟨"-l", .language, true⟩,
    ⟨"--workers", .workers, true⟩, ⟨"--color", .color true, false⟩,
    ⟨"--no-color", .color false, false⟩, ⟨"--notes", .notes, false⟩,
    ⟨"--progress", .progress true, false⟩, ⟨"--no-progress", .progress false, false⟩,
    ⟨"--help", .help, false⟩]

/-- The spellings of the options of a listing. -/
def listingSpecs : List (OptionSpec ListingOption) :=
  [⟨"--format", .format, true⟩, ⟨"--help", .help, false⟩]

/-- What the options before the command ask for on their own: the version or the usage, whichever
comes first. -/
def groupAnswer? (arguments : Arguments GroupOption) : Option (Reading GroupRequest) :=
  arguments.options.findSome? fun option =>
    match option.1 with
    | .version => some (.asked .version)
    | .help => some (.answered usageText)
    | _ => none

/-- What the operands come to when the first of them is no command. They are read once more as
options, since a double hyphen may have hidden some, and these may ask for something; otherwise the
command line is refused. -/
def unknownCommand (operands : List String) : Reading GroupRequest :=
  ((Arguments.read? groupSpecs false operands).bind groupAnswer?).getD .refused

/-- Reads the options before the command, and the command. -/
def readGroup (args : List String) : Reading GroupRequest :=
  match Arguments.read? groupSpecs false args with
  | none => .refused
  | some arguments =>
    match groupAnswer? arguments, arguments.operands with
    | some reading, _ => reading
    | none, [] => .refused
    | none, name :: rest =>
      match Command.ofName? name with
      | none => unknownCommand (name :: rest)
      | some command =>
        .asked (.command ⟨arguments.has .verbose, arguments.has .quiet⟩ command rest)

/-- Whether an operand can be a path: it holds no zero character. -/
def isPathText (operand : String) : Bool :=
  !operand.toList.contains '\x00'

/-- Whether an option turns colours on or off, if it has to do with colours. -/
def colorChoice? : ScanOption → Option Bool
  | .color on => some on
  | _ => none

/-- Whether an option turns the progress bar on or off, if it has to do with the bar. -/
def progressChoice? : ScanOption → Option Bool
  | .progress on => some on
  | _ => none

/-- Reads the arguments of a scan. There has to be a path. -/
def readScan (args : List String) : Reading ScanArguments :=
  match Arguments.read? scanSpecs true args with
  | none => .refused
  | some arguments =>
    if arguments.has .help then .answered usageText
    else if arguments.operands.isEmpty || !arguments.operands.all isPathText then .refused
    else
      -- of several options that say the same or the opposite, the last one counts
      let given := arguments.options.reverse.map (·.1)
      .asked {
        paths := arguments.operands.map Path.ofString
        format := arguments.lastValue? .format
        languages := arguments.values .language
        workers := arguments.lastValue? .workers
        color := given.findSome? colorChoice?
        notes := arguments.has .notes
        progress := given.findSome? progressChoice? }

/-- Reads the arguments of a listing. -/
def readListing (args : List String) : Reading (Option String) :=
  match Arguments.read? listingSpecs true args with
  | none => .refused
  | some arguments =>
    if arguments.has .help then .answered usageText
    else if !arguments.operands.isEmpty then .refused
    else .asked (arguments.lastValue? .format)

/-- The usual reader. -/
def usual : ArgumentReader where
  group := readGroup
  scan := readScan
  listing := readListing
  workers? value := (Text.readCount? value.toList).map Int.ofNat

end ArgumentReader

end SourceLint
