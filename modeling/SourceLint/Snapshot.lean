import SourceLint.FileSystem.Resolve
import SourceLint.Grammar.Loader
import SourceLint.Json.Reader
import SourceLint.Language.Catalogue
import SourceLint.Text.Utf8

set_option autoImplicit false

/-!
# Snapshots

A snapshot is a JSON description of a file system, made by a program that has a parser at hand. It
lists entries in the order in which they are made, with paths relative to the working directory;
directories on the way are made as needed, and links are followed. A file is given by its text or
by its bytes in hexadecimal digits, and may come with its syntax tree, with the failure of its
parser or with the failure of reading it.

What is said of the parser holds for the text of a file under the grammar of its own language,
whatever file the text is found in; the first file with that language and text counts. About any
other source the parser gives no tree.

A node of a tree is an array of its kind, whether it is named, its first byte and the byte behind
it, its row and byte column, its field or null, and its children.

## Main definitions

* `Snapshot.node?` — the node that a value describes.
* `Snapshot.parserReply?` — the parser's reply that a value describes.
* `Snapshot.fileSystem?` — the file system that a list of entries describes.
* `Snapshot.parser?` — the parser that a list of entries describes.
* `Snapshot.supply?` — the supply of grammars that a value describes.
-/

namespace SourceLint.Snapshot

/-- A natural number. -/
def nat? : Json → Option Nat
  | .number n => if 0 ≤ n then some n.toNat else none
  | _ => none

/-- A truth value, also written as one or zero. -/
def flag? : Json → Option Bool
  | .bool b => some b
  | .number n => some (n != 0)
  | _ => none

/-- A name that may be missing. -/
def name? : Json → Option (Option String)
  | .null => some none
  | .string s => some (some s)
  | _ => none

mutual

/-- The node that a value describes. -/
def node? : Json → Option Node
  | .array items => nodeOfItems? items
  | _ => none

/-- The node that the items of an array describe. -/
def nodeOfItems? : List Json → Option Node
  | [kind, named, start, stop, row, column, field, children] => do
    return {
      kind := ← kind.string?
      named := ← flag? named
      start := ← nat? start
      stop := ← nat? stop
      row := ← nat? row
      column := ← nat? column
      field := ← name? field
      children := ← nodesOf? children }
  | _ => none

/-- The nodes that an array describes. -/
def nodesOf? : Json → Option (List Node)
  | .array items => nodes? items
  | _ => none

/-- The nodes that values describe. -/
def nodes? : List Json → Option (List Node)
  | [] => some []
  | json :: rest => do
    let node ← node? json
    let nodes ← nodes? rest
    return node :: nodes

end

/-- The strings of an array. -/
def strings? (json : Json) : Option (List String) := do
  (← json.array?).mapM Json.string?

/-- The names of an object with the strings that they stand for. -/
def stringMap? (json : Json) : Option (List (String × String)) := do
  (← json.object?).mapM fun member => do return (member.1, ← member.2.string?)

/-- The parser's reply that a value describes. -/
def parserReply? (json : Json) : Option ParserReply :=
  match json.present? "parse_error", json.present? "tree" with
  | some failure, _ => do
    let kind ← (← failure.member? "kind").string?
    let message ← (← failure.member? "message").string?
    return .brokeDown ⟨.ofName kind, message⟩
  | none, some tree => do
    let root ← node? tree
    let recovered ←
      match json.present? "has_error" with
      | some flag => flag? flag
      | none => some false
    return .tree root recovered
  | none, none => some .nothing

/-- The bytes that hexadecimal digits stand for. -/
def hexBytes? : List Char → Option (List UInt8)
  | [] => some []
  | [_] => none
  | high :: low :: rest => do
    let byte := 16 * (← Json.hexValue? high) + (← Json.hexValue? low)
    return byte.toUInt8 :: (← hexBytes? rest)

/-- The bytes of a file that a value describes. -/
def bytes? (json : Json) : Option (List UInt8) :=
  match json.member? "text" with
  | some text => return Utf8.encode (← text.string?).toList
  | none => do hexBytes? (← (← json.member? "hex").string?).toList

/-- The failure of reading a file that a value describes. -/
def readFailure? (json : Json) : Option ReadFailure :=
  match json.member? "message" with
  | some message => return .other (← message.string?)
  | none => do
    return .system (← (← json.member? "errno").number?) (← (← json.member? "strerror").string?)

/-- The entry that a value describes. -/
def describedEntry? (json : Json) : Option Entry :=
  match json.present? "link", json.present? "dir" with
  | some target, _ => return .link (← target.string?)
  | none, some _ => some (.directory [])
  | none, none =>
    match json.present? "read_error" with
    | some failure => return .file (.error (← readFailure? failure))
    | none => return .file (.ok (← bytes? json))

/-- A file system with directories made along names from a path, links followed, and the path that
the names lead to. -/
def makeDirectories (fs : FileSystem) (path : Path) : List String → Option (FileSystem × Path)
  | [] => some (fs, path)
  | name :: rest => do
    let reached ← fs.realPath? path [name]
    makeDirectories (fs.put (fs.placeOf reached) (.directory [])) reached rest

/-- A file system with one more entry at a path. Directories on the way are made; links on the way
are followed, and so is the last name, unless the entry is a link itself. -/
def addEntry? (fs : FileSystem) (path : Path) (entry : Entry) : Option FileSystem := do
  let (fs, directory) ← makeDirectories fs { path with names := [] } path.names.dropLast
  let last := path.names.drop (path.names.length - 1)
  let reached ←
    match entry with
    | .link _ => some (directory.append last)
    | _ => fs.realPath? directory last
  return fs.put (fs.placeOf reached) entry

/-- The path of the entry that a value describes. -/
def path? (json : Json) : Option Path := do
  return Path.ofString (← (← json.member? "path").string?)

/-- A file system with the entry that a value describes. -/
def addDescribed? (fs : FileSystem) (json : Json) : Option FileSystem := do
  let path ← path? json
  let entry ← describedEntry? json
  addEntry? fs path entry

/-- A file system with nothing but its working directory. -/
def emptyAt (workingPlace : List String) : FileSystem :=
  FileSystem.put ⟨[], workingPlace⟩ workingPlace (.directory [])

/-- The file system that a list of entries describes. -/
def fileSystem? (workingPlace : List String) (entries : List Json) : Option FileSystem :=
  entries.foldlM addDescribed? (emptyAt workingPlace)

/-- A source text under a grammar, and what the parser replies about it. -/
structure KnownReply where
  grammar : String
  text : String
  reply : ParserReply

/-- What a value says of the parser: nothing, unless it describes a file in a supported language
with its content. -/
def knownReply? (json : Json) : Option (Option KnownReply) := do
  let path ← path? json
  match Language.ofExtension? path.extension, bytes? json with
  | some language, some bytes =>
    return some ⟨language.grammar, String.ofList (Utf8.decode bytes), ← parserReply? json⟩
  | _, _ => return none

/-- The parser that gives known replies, the first one about a source, and otherwise no tree. -/
def parserOf (known : List KnownReply) : Parser := fun grammar text =>
  match known.find? fun entry => entry.grammar == grammar && entry.text == text with
  | some entry => entry.reply
  | none => .nothing

/-- The parser that a list of entries describes. -/
def parser? (entries : List Json) : Option Parser := do
  return parserOf ((← entries.mapM knownReply?).filterMap id)

/-- The failures of building parsers that an object of grammars and messages describes: in each, a
value is found wanting. -/
def unbuildable? (json : Json) : Option (List (String × Breakdown)) := do
  return (← stringMap? json).map fun entry => (entry.1, ⟨.ofName "ValueError", entry.2⟩)

/-- The supply of grammars that a value describes. -/
def supply? (json : Json) : Option GrammarSupply := do
  let missing ←
    match json.present? "missing_grammars" with
    | some names => strings? names
    | none => some []
  let unbuildable ←
    match json.present? "bad_grammars" with
    | some reasons => unbuildable? reasons
    | none => some []
  return ⟨missing, unbuildable⟩

end SourceLint.Snapshot
