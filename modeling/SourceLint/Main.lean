import SourceLint.CommandLine.Command
import SourceLint.Snapshot

set_option autoImplicit false

/-!
# The program

The files that a command works on come as a snapshot on standard input: a JSON object whose member
`fs` lists the entries, and which may name grammars that are missing or for which no parser can be
built. Without a snapshot there are no files. Reports go to standard output and log lines to
standard error.
-/

namespace SourceLint.Program

/-- All of a stream. -/
partial def readAll (stream : IO.FS.Stream) (text : String) : IO String := do
  let line ← stream.getLine
  if line.isEmpty then return text else readAll stream (text ++ line)

/-- The world that a snapshot describes. -/
def worldOf? (text : String) (surroundings : Surroundings) : Option World := do
  let snapshot ← if text.isEmpty then some (.object []) else Json.parse? text.toList
  let entries ←
    match snapshot.present? "fs" with
    | some entries => entries.array?
    | none => some []
  return {
    files := ← Snapshot.fileSystem? ["snapshot"] entries
    supply := ← Snapshot.supply? snapshot
    parser := ← Snapshot.parser? entries
    surroundings := surroundings }

/-- The environment variables that a command looks at. -/
def readEnvironment : IO (List (String × String)) := do
  let mut found := []
  for name in ["SLOPLINT_WORKERS", "NO_COLOR"] do
    if let some value ← IO.getEnv name then
      found := found ++ [(name, value)]
  return found

end SourceLint.Program

open SourceLint

/-- Carries out a command line. -/
def main (args : List String) : IO UInt32 := do
  let text ← Program.readAll (← IO.getStdin) ""
  let surroundings : Surroundings := { environment := ← Program.readEnvironment }
  match Program.worldOf? text surroundings with
  | none =>
    IO.eprintln "sloplint: the snapshot on standard input cannot be read"
    return 2
  | some world =>
    match CommandLine.run world args with
    | .error failure =>
      IO.eprintln ("sloplint: " ++ failure.message)
      return 1
    | .ok outcome =>
      match outcome with
      | .refused text => IO.eprintln (text.getD usageText)
      | .finished _ _ log _ =>
        for line in log do
          IO.eprintln line
      IO.print outcome.output
      return outcome.exitCode.toUInt32
