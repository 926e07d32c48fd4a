import SourceLint.Run.Discovery
import SourceLint.Run.Summary
import SourceLint.Scan

set_option autoImplicit false

/-!
# Scanning a file

A file is scanned when its extension belongs to an enabled language. What goes wrong with reading or
parsing it becomes part of its result, so one bad file does not stop a run. Only a breakdown of the
parser and a circle of links do.

## Main definitions

* `Workspace` — the files, the grammars, the parser, the settings and the root of a run.
* `Workspace.scanFile` — the result of one file.
-/

namespace SourceLint

/-- What a run works on: the files, the supply of grammars, the parser, the settings, and the root
that file names are relative to. -/
structure Workspace where
  files : FileSystem
  supply : GrammarSupply
  parser : Parser
  settings : Settings
  root : Path

namespace Workspace

/-- The result of a file in a language with a text. -/
def scanText (workspace : Workspace) (file : String) (language : Language) (text : String) :
    Except Failure (Logged FileResult) :=
  let source := Source.ofText file language text
  let scanned := Scan.scan workspace.supply [] source (workspace.parser language.grammar text)
  let result : FileResult := { file := file, language := some language.id }
  match scanned.value with
  | .ok diagnostics =>
    .ok ⟨scanned.events ++ [.fileScanned file diagnostics.length],
      { result with diagnostics := diagnostics }⟩
  | .error (.unparsable failure) =>
    .ok ⟨scanned.events ++ [.unparsableFile file language.id failure.message],
      { result with error := some failure.message }⟩
  | .error (.brokeDown breakdown) => .error (.brokeDown breakdown)

/-- The result of one file. -/
def scanFile (workspace : Workspace) (path : Path) : Except Failure (Logged FileResult) := do
  let file ← workspace.files.displayPath workspace.root path
  match Language.ofExtension? path.extension with
  | none => return ⟨[.unsupportedFile file], { file := file, skipped := true }⟩
  | some language =>
    if !workspace.settings.languages.contains language.id then
      return ⟨[.languageDisabled file language.id], { file := file, skipped := true }⟩
    match workspace.files.read path with
    | .error failure =>
      return ⟨[.unreadableFile file failure.reason],
        { file := file, language := some language.id,
          error := some ("cannot read file: " ++ failure.reason) }⟩
    | .ok bytes => workspace.scanText file language (String.ofList (Utf8.decode bytes))

end Workspace

end SourceLint
