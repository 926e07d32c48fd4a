import SourceLint.Text.Lines

set_option autoImplicit false

/-!
# Styled text

Text for a terminal is a sequence of runs, each in one style or in none. Line feeds in a run break
the line, and the style goes on in the next one; a few controls are dropped, and tabs are filled up
with blanks to the next multiple of eight columns. The other controls take up no column.

## Main definitions

* `Style` — the styles in use, with their codes.
* `StyledRun` — text in one style.
* `StyledRun.render` — runs as the lines of a terminal.
-/

namespace SourceLint

/-- The styles in use. -/
inductive Style
  | bold
  | gray
  | yellow
  | cyan
  | dim
  | boldYellow
deriving DecidableEq, Repr

/-- The code by which a terminal turns a style on. -/
def Style.code : Style → String
  | .bold => "1"
  | .gray => "90"
  | .yellow => "33"
  | .cyan => "36"
  | .dim => "2"
  | .boldYellow => "1;33"

/-- Text in one style, or in none. -/
structure StyledRun where
  style : Option Style
  text : List Char

namespace StyledRun

/-- Text without a style. -/
def plain (text : String) : StyledRun := ⟨none, text.toList⟩

/-- Text in a style. -/
def styled (style : Style) (text : String) : StyledRun := ⟨some style, text.toList⟩

/-- The controls that are dropped: bell, backspace, vertical tab, form feed, carriage return. -/
def isDropped (c : Char) : Bool :=
  ['\x07', '\x08', '\x0b', '\x0c', '\x0d'].contains c

/-- A run without the controls that are dropped. -/
def cleaned (run : StyledRun) : StyledRun :=
  { run with text := run.text.filter fun c => !isDropped c }

/-- Puts the pieces of a run before the lines that follow it: its last piece belongs to the first of
these lines. -/
def putBefore : List StyledRun → List (List StyledRun) → List (List StyledRun)
  | [], lines => lines
  | [last], [] => [[last]]
  | [last], line :: lines => (last :: line) :: lines
  | piece :: pieces, lines => [piece] :: putBefore pieces lines

/-- The lines of runs. -/
def toLines : List StyledRun → List (List StyledRun)
  | [] => [[]]
  | run :: runs => putBefore ((Text.lines run.text).map fun text => ⟨run.style, text⟩) (toLines runs)

/-- The distance between tab stops. -/
def tabWidth : Nat := 8

/-- A control character, which takes up no column. -/
def isControl (c : Char) : Bool :=
  c.toNat < 0x20 || (0x7F ≤ c.toNat && c.toNat ≤ 0x9F)

/-- A character from a column on, a tab filled up with blanks, and the column behind it. -/
def expandTab (column : Nat) (c : Char) : List Char × Nat :=
  if c = '\t' then
    let width := tabWidth - column % tabWidth
    (List.replicate width ' ', column + width)
  else ([c], if isControl c then column else column + 1)

/-- Text that starts in a column, its tabs filled up with blanks, and the column behind it. -/
def expandTabs (column : Nat) : List Char → List Char × Nat
  | [] => ([], column)
  | c :: cs =>
    let (filled, next) := expandTab column c
    let (rest, behind) := expandTabs next cs
    (filled ++ rest, behind)

/-- A run in the code of a terminal, or as bare text without colours. Empty runs leave no trace. -/
def renderText (color : Bool) (style : Option Style) (text : List Char) : List Char :=
  match style with
  | some style =>
    if color && !text.isEmpty then
      '\x1b' :: '[' :: style.code.toList ++ 'm' :: text ++ ['\x1b', '[', '0', 'm']
    else text
  | none => text

/-- A line from a column on. -/
def renderLine (color : Bool) (column : Nat) : List StyledRun → List Char
  | [] => ['\n']
  | run :: runs =>
    let (text, behind) := expandTabs column run.text
    renderText color run.style text ++ renderLine color behind runs

/-- Runs as the lines of a terminal, each with its line feed. -/
def render (color : Bool) (runs : List StyledRun) : List Char :=
  (toLines (runs.map cleaned)).flatMap (renderLine color 0)

example : render true [plain "a", styled .bold "b\nc"] =
    "a\x1b[1mb\x1b[0m\n\x1b[1mc\x1b[0m\n".toList := by decide

example : render false [styled .gray "  > a\tb"] = "  > a   b\n".toList := by decide

example : render false [plain "a\x01\tb"] = "a\x01       b\n".toList := by decide

end StyledRun

end SourceLint
