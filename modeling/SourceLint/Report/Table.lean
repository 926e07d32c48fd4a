import SourceLint.Text.Split

set_option autoImplicit false

/-!
# Tables

A table with a title, a heading in heavy lines, and rows in light ones. Every column is as wide as
its widest cell, and the title is centred over the table.

## Main definitions

* `Table` — title, heading and rows.
* `Table.render` — the text of a table.
-/

namespace SourceLint

/-- A table with a title, a heading and rows of as many cells. -/
structure Table where
  title : String
  heading : List String
  rows : List (List String)

namespace Table

/-- The width of each column: that of its widest cell. -/
def widths (table : Table) : List Nat :=
  table.rows.foldl (fun widths row => List.zipWith max widths (row.map String.length))
    (table.heading.map String.length)

/-- A text filled up with blanks to a width. -/
def padRight (width : Nat) (text : String) : String :=
  text ++ String.ofList (List.replicate (width - text.length) ' ')

/-- A text with blanks on both sides, so that it stands in the middle of a width. -/
def centre (width : Nat) (text : String) : String :=
  let left := (width - text.length) / 2
  padRight width (String.ofList (List.replicate left ' ') ++ text)

/-- A line of cells between bars. -/
def cellLine (bar : String) (widths : List Nat) (cells : List String) : String :=
  bar ++ Text.joinWith bar (List.zipWith (fun w cell => " " ++ padRight w cell ++ " ") widths cells)
    ++ bar

/-- A rule across the table: its left end, the line, what stands between columns, its right end. -/
def ruleLine (left line between right : String) (widths : List Nat) : String :=
  left ++ Text.joinWith between (widths.map fun w =>
    String.ofList ((List.replicate (w + 2) line.toList).flatten)) ++ right

/-- The lines of a table. -/
def lines (table : Table) : List String :=
  let widths := table.widths
  let top := ruleLine "┏" "━" "┳" "┓" widths
  [centre top.length table.title, top, cellLine "┃" widths table.heading,
    ruleLine "┡" "━" "╇" "┩" widths] ++
  table.rows.map (cellLine "│" widths) ++
  [ruleLine "└" "─" "┴" "┘" widths]

/-- The text of a table. -/
def render (table : Table) : String :=
  String.join (table.lines.map (· ++ "\n"))

end Table

end SourceLint
