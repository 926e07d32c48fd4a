import SourceLint.Path
import SourceLint.Text.Decimal

set_option autoImplicit false

/-!
# File systems

A file system is a tree of directories, files and symbolic links, with a working directory in it.
A file carries what reading it gives, which may be a failure. Directories may all be listed and
searched, as far as their paths are not too long. Places in the tree are lists of names from the
root.

Entries are looked up in two ways. `FileSystem.entryAt?` goes down the tree name by name and follows
no links. `FileSystem.locate` follows links the way a system does, up to a number of them, and fails
with a cause.

## Main definitions

* `Entry` — a file, a link or a directory.
* `FileSystem` — the entries below the root, and the working directory.
* `FileSystem.entryAt?` — the entry at a place.
* `FileSystem.put` — a file system with one more entry.
* `FileSystem.locate` — the entry that a sequence of names leads to, links followed.
-/

namespace SourceLint

/-- Why a file cannot be read. -/
inductive ReadFailure
  /-- A failure with a number, and the words for it. -/
  | system (code : Int) (words : String)
  /-- A failure that has only a message. -/
  | other (message : String)
deriving DecidableEq, Repr

/-- The reason that is reported: the words for the failure, or its number where there are none. -/
def ReadFailure.reason : ReadFailure → String
  | .system code words =>
    if words.isEmpty then "[Errno " ++ Text.decimal code ++ "] " else words
  | .other message => message

/-- An entry of a directory; a file comes with the outcome of reading it. -/
inductive Entry
  | file (content : Except ReadFailure (List UInt8))
  | link (target : String)
  | directory (entries : List (String × Entry))

/-- The entries below the root, and the place of the working directory. -/
structure FileSystem where
  entries : List (String × Entry)
  workingPlace : List String

/-- Why a sequence of names leads to no entry. -/
inductive LookupFailure
  | notFound
  | notDirectory
  | tooManyLinks
  | nameTooLong
deriving DecidableEq, Repr

namespace FileSystem

/-- The entry of a name among entries. -/
def entryOf? (entries : List (String × Entry)) (name : String) : Option Entry :=
  (entries.find? (·.1 == name)).map (·.2)

/-- The entry at a place below some entries, without following links. -/
def entryBelow? (entries : List (String × Entry)) : List String → Option Entry
  | [] => some (.directory entries)
  | name :: rest =>
    match entryOf? entries name with
    | some (.directory below) => entryBelow? below rest
    | found => if rest.isEmpty then found else none

/-- The entry at a place, without following links. -/
def entryAt? (fs : FileSystem) (place : List String) : Option Entry :=
  entryBelow? fs.entries place

/-- Entries with the entry of one name replaced, or added behind the others. -/
def replaceEntry (entries : List (String × Entry)) (name : String) (entry : Entry) :
    List (String × Entry) :=
  if entries.any (·.1 == name) then
    entries.map fun old => if old.1 == name then (name, entry) else old
  else entries ++ [(name, entry)]

/-- Entries with one more entry at a place, and directories on the way to it. Putting a directory
where one is keeps what it holds. -/
def putBelow (entries : List (String × Entry)) (entry : Entry) : List String → List (String × Entry)
  | [] => entries
  | [name] =>
    match entryOf? entries name, entry with
    | some (.directory below), .directory _ => replaceEntry entries name (.directory below)
    | _, entry => replaceEntry entries name entry
  | name :: rest =>
    match entryOf? entries name with
    | some (.directory below) => replaceEntry entries name (.directory (putBelow below entry rest))
    | _ => replaceEntry entries name (.directory (putBelow [] entry rest))

/-- A file system with one more entry at a place, and directories on the way to it. -/
def put (fs : FileSystem) (place : List String) (entry : Entry) : FileSystem :=
  { fs with entries := putBelow fs.entries entry place }

/-- The greatest number of links that are followed on the way to an entry. -/
def maxLinks : Nat := 40

/-- The greatest length of a name, in bytes. -/
def maxNameBytes : Nat := 255

/-- The names of a link's target. A slash at its end asks for a directory, like a dot. -/
def targetNames (target : String) : List String :=
  (Text.splitString '/' target).filter (· != "") ++
    (if target.toList.getLast? == some '/' then ["."] else [])

/-- Where a link at a place in a directory starts to lead: at the root, or in that directory. -/
def targetBase (directory : List String) (target : String) : List String :=
  if target.toList.head? == some '/' then [] else directory

/-- The place and the entry that names lead to from a directory, links followed. -/
def locate (fs : FileSystem) (links : Nat) (directory : List String) (names : List String) :
    Except LookupFailure (List String × Entry) :=
  match names with
  | [] =>
    match fs.entryAt? directory with
    | some entry => .ok (directory, entry)
    | none => .error .notFound
  | "." :: rest => locate fs links directory rest
  | ".." :: rest => locate fs links directory.dropLast rest
  | name :: rest =>
    if maxNameBytes < name.utf8ByteSize then .error .nameTooLong
    else
      match fs.entryAt? (directory ++ [name]) with
      | none => .error .notFound
      | some (.directory _) => locate fs links (directory ++ [name]) rest
      | some (.file content) =>
        if rest.isEmpty then .ok (directory ++ [name], .file content) else .error .notDirectory
      | some (.link target) =>
        match links with
        | 0 => .error .tooManyLinks
        | links + 1 =>
          locate fs links (targetBase directory target) (targetNames target ++ rest)
termination_by (links, names.length)

/-- The place where a path starts. -/
def startOf (fs : FileSystem) (path : Path) : List String :=
  match path.anchor with
  | .relative => fs.workingPlace
  | _ => []

/-- The greatest length of a written path, in bytes. -/
def maxPathBytes : Nat := 4095

/-- Whether a path is too long to lead anywhere. -/
def isTooLong (path : Path) : Bool :=
  maxPathBytes < path.render.utf8ByteSize

/-- The place and the entry that a path leads to. A path that holds a zero character leads nowhere,
however long it is. -/
def lookup (fs : FileSystem) (path : Path) : Except LookupFailure (List String × Entry) :=
  if path.holdsZero then .error .notFound
  else if isTooLong path then .error .nameTooLong
  else fs.locate maxLinks (fs.startOf path) path.names

mutual

/-- The number of links in an entry. -/
def linkCount : Entry → Nat
  | .file _ => 0
  | .link _ => 1
  | .directory entries => linkCountAll entries

/-- The number of links in entries. -/
def linkCountAll : List (String × Entry) → Nat
  | [] => 0
  | (_, entry) :: rest => linkCount entry + linkCountAll rest

end

end FileSystem

end SourceLint
