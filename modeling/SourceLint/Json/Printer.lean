import SourceLint.Json.Basic
import SourceLint.Text.Decimal
import SourceLint.Text.Quoted

set_option autoImplicit false

/-!
# Writing JSON

A layout says what stands between the items of a value: `Layout.indented` gives every item a line
of its own, two blanks further in per level, and `Layout.compact` writes no blanks at all. Empty
arrays and objects are written without a break in either.

Strings keep every character beyond the seven-bit range. Only the quote, the backslash and the
controls below the space are escaped, with the short forms for backspace, form feed, line feed,
carriage return and tab.

## Main definitions

* `Json.Layout` — what stands between items, and after the colon of a member.
* `Json.write` — the text of a value in a layout.
* `Json.render` — the indented text of a value, as reports show it.
-/

namespace SourceLint.Json

/-- What stands before an item at a depth of nesting, and after the colon of a member. -/
structure Layout where
  gap : Nat → List Char
  afterColon : List Char

/-- Every item on a line of its own, two blanks further in per level. -/
def Layout.indented : Layout where
  gap depth := '\n' :: List.replicate (2 * depth) ' '
  afterColon := [' ']

/-- No blanks at all. -/
def Layout.compact : Layout where
  gap _ := []
  afterColon := []

/-- One character of a string. -/
def writeChar (c : Char) : List Char :=
  if c = '"' ∨ c = '\\' then ['\\', c]
  else if c = '\n' then ['\\', 'n']
  else if c = '\r' then ['\\', 'r']
  else if c = '\t' then ['\\', 't']
  else if c = '\x08' then ['\\', 'b']
  else if c = '\x0c' then ['\\', 'f']
  else if c.toNat < 0x20 then '\\' :: 'u' :: Text.hexadecimal 4 c.toNat
  else [c]

/-- A string between its quotes. -/
def writeString (s : String) : List Char :=
  '"' :: s.toList.flatMap writeChar ++ ['"']

mutual

/-- The text of a value that stands at a depth of nesting. -/
def write (layout : Layout) (depth : Nat) : Json → List Char
  | .null => ['n', 'u', 'l', 'l']
  | .bool true => ['t', 'r', 'u', 'e']
  | .bool false => ['f', 'a', 'l', 's', 'e']
  | .number n => Text.decimalChars n
  | .string s => writeString s
  | .array [] => ['[', ']']
  | .array (item :: items) =>
    '[' :: layout.gap (depth + 1) ++ write layout (depth + 1) item ++
      writeItems layout (depth + 1) items ++ layout.gap depth ++ [']']
  | .object [] => ['\x7b', '\x7d']
  | .object ((name, value) :: members) =>
    '\x7b' :: layout.gap (depth + 1) ++ writeString name ++ ':' :: layout.afterColon ++
      write layout (depth + 1) value ++ writeMembers layout (depth + 1) members ++
      layout.gap depth ++ ['\x7d']

/-- The text of the items after the first one, each with the comma before it. -/
def writeItems (layout : Layout) (depth : Nat) : List Json → List Char
  | [] => []
  | item :: items =>
    ',' :: layout.gap depth ++ write layout depth item ++ writeItems layout depth items

/-- The text of the members after the first one, each with the comma before it. -/
def writeMembers (layout : Layout) (depth : Nat) : List (String × Json) → List Char
  | [] => []
  | (name, value) :: members =>
    ',' :: layout.gap depth ++ writeString name ++ ':' :: layout.afterColon ++
      write layout depth value ++ writeMembers layout depth members

end

/-- The indented text of a value. -/
def render (json : Json) : String :=
  String.ofList (write .indented 0 json)

/-- The text of a value on one line. -/
def renderCompact (json : Json) : String :=
  String.ofList (write .compact 0 json)

end SourceLint.Json
