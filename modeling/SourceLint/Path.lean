import SourceLint.Text.Split

set_option autoImplicit false

/-!
# Paths

A path is a sequence of names, relative or anchored at the root. Empty names and single dots are
dropped when a path is read, double dots are kept: what they lead to depends on the links of a file
system. A path that starts with exactly two slashes has an anchor of its own.

## Main definitions

* `Path` — an anchor and the names behind it.
* `Path.ofString`, `Path.render` — reading and writing.
* `Path.child` — a path with one more name.
* `Path.dotted`, `Path.plain` — with the dot that stands for an empty path, and without dots.
* `Path.holdsZero` — whether a zero character stands in a path.
* `Path.extension` — the extension of a file's name, with its dot.
-/

namespace SourceLint

/-- Where a path starts. -/
inductive Anchor
  | relative
  | root
  | doubleRoot
deriving DecidableEq, Repr

/-- The text of an anchor. -/
def Anchor.text : Anchor → String
  | .relative => ""
  | .root => "/"
  | .doubleRoot => "//"

/-- A sequence of names behind an anchor. -/
structure Path where
  anchor : Anchor
  names : List String
deriving DecidableEq, Repr

namespace Path

/-- The anchor of a written path. -/
def anchorOf (cs : List Char) : Anchor :=
  match (cs.takeWhile (· == '/')).length with
  | 0 => .relative
  | 2 => .doubleRoot
  | _ => .root

/-- The parts of a written path between its slashes, empty ones included. -/
def partsOf (s : String) : List String :=
  Text.splitString '/' s

/-- Whether a part of a written path counts: it is neither empty nor a dot. -/
def isName (part : String) : Bool :=
  part != "" && part != "."

/-- Reads a path. -/
def ofString (s : String) : Path where
  anchor := anchorOf s.toList
  names := (partsOf s).filter isName

/-- Writes a path; the empty relative path is a dot. -/
def render (path : Path) : String :=
  match path.anchor, path.names with
  | .relative, [] => "."
  | anchor, names => anchor.text ++ Text.joinWith "/" names

/-- A path with one more name. -/
def child (path : Path) (name : String) : Path :=
  { path with names := path.names ++ [name] }

/-- A path with more names. -/
def append (path : Path) (names : List String) : Path :=
  { path with names := path.names ++ names }

/-- A path with the rest of a written path behind it, given by its parts. A rest that starts with a
slash stands for itself. -/
def join (path : Path) : List String → Path
  | "" :: part :: parts => ofString (Text.joinWith "/" ("" :: part :: parts))
  | parts => path.append (parts.filter isName)

/-- The path one step up: without its last name, or with one more double dot where a relative path
has no name to leave out. -/
def parent (path : Path) : Path :=
  match path.anchor, path.names.getLast? with
  | .relative, none => path.child ".."
  | .relative, some ".." => path.child ".."
  | _, _ => { path with names := path.names.dropLast }

/-- A path in which the empty relative path is spelled out as a dot, so that what is below it is
written behind that dot. -/
def dotted (path : Path) : Path :=
  match path.anchor, path.names with
  | .relative, [] => { path with names := ["."] }
  | _, _ => path

/-- A path without dots among its names. -/
def plain (path : Path) : Path :=
  { path with names := path.names.filter (· != ".") }

/-- Whether a zero character stands in a name. No file system holds such a name. -/
def isZeroName (name : String) : Bool :=
  name.toList.contains '\x00'

/-- Whether a zero character stands in a path. -/
def holdsZero (path : Path) : Bool :=
  path.names.any isZeroName

/-- The last name of a path, or nothing. -/
def lastName (path : Path) : String :=
  path.names.getLast?.getD ""

/-- The extension of a file name: what starts at its last dot, unless that is the first or the last
character of the name. -/
def extensionOf (name : String) : String :=
  let reversed := name.toList.reverse
  match reversed.takeWhile (· != '.'), reversed.dropWhile (· != '.') with
  | [], _ => ""
  | _, [] => ""
  | _, [_] => ""
  | tail, _ :: _ :: _ => String.ofList ('.' :: tail.reverse)

/-- The extension of the last name of a path. -/
def extension (path : Path) : String :=
  extensionOf path.lastName

example : (ofString "./a//b/.").render = "a/b" := by decide

example : ((ofString "").dotted.child "a").render = "./a" := by decide

example : ((ofString "").dotted.child "a").plain = ofString "a" := by decide

example : (ofString "a").parent = ofString "" ∧ (ofString "..").parent = ofString "../.." := by decide

example : (ofString "/").parent = ofString "/" := by decide

example : (ofString "a").join (partsOf "b/.//c") = ofString "a/b/c" := by decide

example : (ofString "a").join (partsOf "/b") = ofString "/b" := by decide

example : (ofString "a/..").render = "a/.." ∧ (ofString "").render = "." := by decide

example : extensionOf "a.tar.gz" = ".gz" ∧ extensionOf "..ts" = ".ts" := by decide

example : extensionOf ".ts" = "" ∧ extensionOf "a." = "" := by decide

end Path

end SourceLint
