import SourceLint.FileSystem.Resolve
import SourceLint.Text.Case
import SourceLint.Text.Order

set_option autoImplicit false

/-!
# Walking directories

A walk lists the files below a directory: first the files of the directory itself, then those of
its subdirectories, one after the other, both in ascending order of names. Hidden files and
directories, whose names start with a dot, are passed over, as are directories with certain names
and files without one of the wanted extensions. Links to directories are neither entered nor
listed; all other links count as files, wherever they lead. Where a path grows too long for the
file system, directories cannot be opened any more and links cannot be followed.

## Main definitions

* `FileFilter` — what a walk passes over.
* `FileSystem.filesBelow` — the files that a walk lists below an entry.
* `FileSystem.walk` — the files that a walk from a path lists.
-/

namespace SourceLint

/-- What a walk passes over. -/
structure FileFilter where
  /-- The wanted extensions, in lower case. -/
  extensions : List String
  /-- The names of directories that are not entered. -/
  skippedDirectories : List String

/-- Whether a name is that of a hidden entry. -/
def isHidden (name : String) : Bool :=
  name.toList.head? == some '.'

namespace FileFilter

/-- Whether a walk lists a file of this name. -/
def keepsFile (filter : FileFilter) (name : String) : Bool :=
  !isHidden name && filter.extensions.contains (Text.lowerString (Path.extensionOf name))

/-- Whether a walk enters a directory of this name. -/
def entersDirectory (filter : FileFilter) (name : String) : Bool :=
  !isHidden name && !filter.skippedDirectories.contains name

end FileFilter

namespace FileSystem

/-- Whether the entry at a path is no directory, links followed. A link that leads nowhere is none,
nor is one whose path is too long to be followed. -/
def countsAsFile (fs : FileSystem) (path : Path) : Entry → Bool
  | .file _ => true
  | .directory _ => false
  | .link _ =>
    match fs.lookup path with
    | .ok (_, .directory _) => false
    | _ => true

/-- The names of the files that a walk lists among the entries of a directory, in order. -/
def fileNames (fs : FileSystem) (filter : FileFilter) (path : Path)
    (entries : List (String × Entry)) : List String :=
  Text.sortStrings <| (entries.filter fun entry =>
    filter.keepsFile entry.1 && fs.countsAsFile (path.child entry.1) entry.2).map (·.1)

/-- Lists that belong to names, put together in ascending order of the names. -/
def inNameOrder {α : Type} (lists : List (String × List α)) : List α :=
  (lists.mergeSort fun s t => decide (s.1 ≤ t.1)).flatMap (·.2)

mutual

/-- The files that a walk lists below an entry, which has the given path. A directory whose path is
too long cannot be opened, so nothing is listed below it. -/
def filesBelow (fs : FileSystem) (filter : FileFilter) (path : Path) : Entry → List Path
  | .directory entries =>
    if isTooLong path then []
    else
      (fs.fileNames filter path entries).map path.child ++
        inNameOrder (filesBelowEach fs filter path entries)
  | _ => []

/-- The files that a walk lists below each directory that it enters among some entries. -/
def filesBelowEach (fs : FileSystem) (filter : FileFilter) (path : Path) :
    List (String × Entry) → List (String × List Path)
  | [] => []
  | (name, entry) :: rest =>
    let others := filesBelowEach fs filter path rest
    if filter.entersDirectory name then
      (name, filesBelow fs filter (path.child name) entry) :: others
    else others

end

/-- The files that a walk from a path to a directory lists. The walk writes what it finds behind the
path that it starts from, and behind a dot when it starts in the working directory. -/
def walk (fs : FileSystem) (filter : FileFilter) (path : Path) (entries : List (String × Entry)) :
    List Path :=
  (fs.filesBelow filter path.dotted (.directory entries)).map Path.plain

end FileSystem

end SourceLint
