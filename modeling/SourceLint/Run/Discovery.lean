import SourceLint.FileSystem.Walk
import SourceLint.Log.Logged
import SourceLint.Settings

set_option autoImplicit false

/-!
# Discovery of files

The paths that a run is given are expanded to files. A path to a file stands for itself, whatever
its extension. A path to a directory stands for the files of enabled languages that a walk lists
below it. A path to nothing is reported and dropped. Of paths that resolve to the same one only the
first is kept.

## Main definitions

* `Discovery.expand` — the files that one path stands for.
* `Discovery.discover` — the files that paths stand for, without duplicates.
-/

namespace SourceLint

/-- What a walk passes over under some settings. -/
def Settings.fileFilter (settings : Settings) : FileFilter where
  extensions := Language.enabledExtensions settings.languages
  skippedDirectories := settings.skippedDirectories

namespace Discovery

/-- The files that a path stands for. -/
def expand (fs : FileSystem) (settings : Settings) (path : Path) :
    Except Failure (Logged (List Path)) := do
  if ← fs.isFile path then return pure [path]
  match fs.directory? path with
  | some entries => return pure (fs.walk settings.fileFilter path entries)
  | none =>
    return do
      Logged.report (.pathMissing path.render)
      return []

/-- Paths with what they resolve to. -/
def withResolved (fs : FileSystem) : List Path → Except Failure (List (Path × Path))
  | [] => .ok []
  | path :: paths => do
    let resolved ← fs.resolve path
    let rest ← withResolved fs paths
    return (path, resolved) :: rest

/-- The files that paths stand for, with what they resolve to. -/
def expandAll (fs : FileSystem) (settings : Settings) :
    List Path → Except Failure (Logged (List (Path × Path)))
  | [] => .ok (pure [])
  | path :: paths => do
    let files ← expand fs settings path
    let resolved ← withResolved fs files.value
    let rest ← expandAll fs settings paths
    return ⟨files.events ++ rest.events, resolved ++ rest.value⟩

/-- The paths that resolve to something that does not occur before them nor among what has been seen
already. -/
def firstOfEach (seen : List Path) : List (Path × Path) → List Path
  | [] => []
  | (path, resolved) :: rest =>
    if seen.contains resolved then firstOfEach seen rest
    else path :: firstOfEach (resolved :: seen) rest

/-- The files that paths stand for, without duplicates and in order of discovery. -/
def discover (fs : FileSystem) (settings : Settings) (paths : List Path) :
    Except Failure (Logged (List Path)) := do
  let found ← expandAll fs settings paths
  return ⟨found.events, firstOfEach [] found.value⟩

end Discovery

end SourceLint
