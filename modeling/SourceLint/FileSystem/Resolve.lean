import SourceLint.Failure
import SourceLint.FileSystem.Basic

set_option autoImplicit false

/-!
# Resolved paths

A path is resolved to the absolute path that it stands for once all links on it are replaced by
their targets. Names that lead to nothing are kept, and a double dot goes up one name, so every path
has a resolved form, unless its links lead in a circle or it holds a zero character. Two paths name
the same file when they resolve to the same path.

Links are replaced from the front, and what has been replaced so far is a path again, relative if
the whole is. A link on a path that is too long to be looked at passes for an ordinary name. A link
that leads back to itself is left as it is, with the unread rest of the written path behind it; a
rest that starts with a slash then stands for itself, so that even such a path may have a resolved
form.

## Main definitions

* `FileSystem.placeOf` — the place of a path, without regard to links.
* `FileSystem.follow` — the parts of a written path taken from a path, every link replaced by its
  target.
* `FileSystem.resolve` — the absolute path that a path stands for.
* `FileSystem.displayPath` — a path relative to a root, where it lies below that root.
-/

namespace SourceLint.FileSystem

/-- A place, its last name first, after one more name, without regard to links. -/
def enter : List String → String → List String
  | reversed, "." => reversed
  | reversed, ".." => reversed.tail
  | reversed, name => name :: reversed

/-- The place that names lead to from a place, without regard to links. -/
def collapse (place names : List String) : List String :=
  (names.foldl enter place.reverse).reverse

/-- The place of a path, without regard to links. -/
def placeOf (fs : FileSystem) (path : Path) : List String :=
  collapse (fs.startOf path) path.names

/-- The target of the link at a path, unless the path is too long to be looked at. -/
def linkAt? (fs : FileSystem) (path : Path) : Option String :=
  match fs.entryAt? (fs.placeOf path) with
  | some (.link target) => if isTooLong path then none else some target
  | _ => none

/-- Where a link in the directory of a path starts to lead: at the root, or in that directory. -/
def targetStart (path : Path) (target : String) : Path :=
  if target.toList.head? == some '/' then ⟨.root, []⟩ else path

/-- The links that have been met, the latest in front: each with the path that it was replaced by,
or with none while it is being replaced. -/
abbrev LinkTrail := List (Path × Option Path)

/-- A path whose links have been replaced by their targets. -/
structure Followed where
  path : Path
  /-- Whether no link led back to itself; otherwise that link and what follows it are left as they
  are. -/
  complete : Bool
  /-- The links that have been met. -/
  trail : LinkTrail

/-- The path that the parts of a written path lead to from a path, every link replaced by its
target, unless a zero character is met. `depth` bounds the number of links that are being replaced
at once. -/
def follow (fs : FileSystem) (depth : Nat) (trail : LinkTrail) (path : Path)
    (parts : List String) : Option Followed :=
  match parts with
  | [] => some ⟨path, true, trail⟩
  | "" :: rest => follow fs depth trail path rest
  | "." :: rest => follow fs depth trail path rest
  | ".." :: rest => follow fs depth trail path.parent rest
  | name :: rest =>
    let here := path.child name
    if Path.isZeroName name then none
    else
      match fs.linkAt? here, trail.lookup here with
      | none, _ => follow fs depth trail here rest
      | some _, some (some reached) => follow fs depth trail reached rest
      | some _, some none => some ⟨here.join rest, false, trail⟩
      | some target, none =>
        match depth with
        | 0 => some ⟨here.join rest, false, trail⟩
        | depth + 1 =>
          match follow fs depth ((here, none) :: trail) (targetStart path target)
              (Path.partsOf target) with
          | none => none
          | some ⟨reached, true, trail⟩ =>
            follow fs (depth + 1) ((here, some reached) :: trail) reached rest
          | some ⟨reached, false, trail⟩ => some ⟨reached.join rest, false, trail⟩
termination_by (depth, parts.length)

/-- A bound on the links that can be replaced at once: a relative path may name a link from the
working directory or from any directory above it. -/
def followDepth (fs : FileSystem) : Nat :=
  (linkCountAll fs.entries + 1) * (fs.workingPlace.length + 2)

/-- The path that parts of a written path lead to from a path, every link replaced by its target. -/
def realPath? (fs : FileSystem) (path : Path) (parts : List String) : Option Path :=
  (fs.follow fs.followDepth [] path parts).map (·.path)

/-- Where the parts of a path are taken from: the working directory, or the root. -/
def origin (path : Path) : Path :=
  match path.anchor with
  | .relative => ⟨.relative, []⟩
  | _ => ⟨.root, []⟩

/-- A path from the root down, without regard to links. -/
def absolute (fs : FileSystem) (path : Path) : Path where
  anchor :=
    match path.anchor with
    | .relative => .root
    | anchor => anchor
  names := fs.placeOf path

/-- The absolute path that a path stands for. -/
def resolve (fs : FileSystem) (path : Path) : Except Failure Path :=
  match (fs.realPath? (origin path) path.names).map fs.absolute with
  | none => .error .zeroCharacter
  | some resolved =>
    if resolved.holdsZero then .error .zeroCharacter
    else
      match fs.lookup resolved with
      | .error .tooManyLinks => .error (.linkLoop resolved.render)
      | _ => .ok resolved

/-- What follows some names at the start of others. -/
def namesBelow? : List String → List String → Option (List String)
  | [], names => some names
  | _ :: _, [] => none
  | name :: root, name' :: names => if name = name' then namesBelow? root names else none

/-- The names of an absolute path from another one down, where it lies below that one. -/
def below? (root path : Path) : Option (List String) :=
  if root.anchor = path.anchor then namesBelow? root.names path.names else none

/-- The names of a path from a root down, where it lies below that root after resolving both, and
the path as given otherwise. -/
def displayPath (fs : FileSystem) (root path : Path) : Except Failure String :=
  match fs.resolve path with
  | .error .zeroCharacter => .ok path.render
  | .error failure => .error failure
  | .ok resolved =>
    match fs.resolve root with
    | .error .zeroCharacter => .ok path.render
    | .error failure => .error failure
    | .ok resolvedRoot =>
      match below? resolvedRoot resolved with
      | some names => .ok (Path.render ⟨.relative, names⟩)
      | none => .ok path.render

/-- Whether a path leads to a file, links followed. -/
def isFile (fs : FileSystem) (path : Path) : Except Failure Bool :=
  match fs.lookup path with
  | .ok (_, .file _) => .ok true
  | .error .nameTooLong => .error (.nameTooLong path.render)
  | _ => .ok false

/-- The entries of the directory that a path leads to, links followed. -/
def directory? (fs : FileSystem) (path : Path) : Option (List (String × Entry)) :=
  match fs.lookup path with
  | .ok (_, .directory entries) => some entries
  | _ => none

/-- Why nothing can be read where a look-up fails. -/
def lookupReadFailure : LookupFailure → ReadFailure
  | .notFound => .system 2 "No such file or directory"
  | .notDirectory => .system 20 "Not a directory"
  | .tooManyLinks => .system 40 "Too many levels of symbolic links"
  | .nameTooLong => .system 36 "File name too long"

/-- What reading the file at a path gives. -/
def read (fs : FileSystem) (path : Path) : Except ReadFailure (List UInt8) :=
  match fs.lookup path with
  | .ok (_, .file content) => content
  | .ok _ => .error (.system 21 "Is a directory")
  | .error failure => .error (lookupReadFailure failure)

end SourceLint.FileSystem
