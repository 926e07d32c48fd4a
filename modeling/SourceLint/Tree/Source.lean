import SourceLint.Language.Basic
import SourceLint.Text.Lines
import SourceLint.Text.Utf8
import SourceLint.Tree.Node

set_option autoImplicit false

/-!
# Sources

A source is the text of a file, as the bytes to which the ranges of its syntax tree refer, with the
name and the language of the file. Columns are reported in characters, although trees count them in
bytes: the column of a node is the number of characters between the start of its line and the node.
A tree may name a byte column that lies before the beginning of the source; the line is then taken
to start as far from the end of the source.

## Main definitions

* `Source` — a file's name, language and bytes.
* `Source.textOf` — the text of a node.
* `Source.position` — the line and column of a node, counted from one.
* `Source.excerpt` — the first visual line of a node.
-/

namespace SourceLint

/-- The text of a file, as bytes, with the file's name and language. -/
structure Source where
  file : String
  language : Language
  bytes : List UInt8

/-- A line and a column, both counted from one. -/
structure Position where
  line : Int
  column : Int
deriving DecidableEq, Repr

namespace Source

/-- The source of a text. -/
def ofText (file : String) (language : Language) (text : String) : Source where
  file := file
  language := language
  bytes := Utf8.encode text.toList

/-- The text between two byte offsets. -/
def textBetween (source : Source) (start stop : Nat) : List Char :=
  Utf8.decode (Utf8.slice source.bytes start stop)

/-- The text of a node. -/
def textOf (source : Source) (node : Node) : List Char :=
  source.textBetween node.start node.stop

/-- Where the line of a node starts: its byte column before the node. -/
def lineStart (source : Source) (node : Node) : Nat :=
  Utf8.cut source.bytes ((node.start : Int) - node.column)

/-- The line and column of a node; columns count characters. -/
def position (source : Source) (node : Node) : Position where
  line := node.row + 1
  column := (source.textBetween (source.lineStart node) node.start).length + 1

/-- The first visual line of a node. -/
def excerpt (source : Source) (node : Node) : List Char :=
  Text.firstLine (source.textOf node)

end Source

end SourceLint
