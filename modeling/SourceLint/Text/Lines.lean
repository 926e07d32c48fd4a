import SourceLint.Text.Ranges
import SourceLint.Text.Split

set_option autoImplicit false

/-!
# Lines

Two notions of line are in use. Line *numbers* count line feeds only, so the lines of a comment are
its pieces between line feeds. Excerpts and logs are shown by *visual* lines, which stop at anything
that a reader sees as the end of a line; besides the line feed these are the carriage return, the
vertical tab, the form feed, three of the information separators, the next-line control and the line
and paragraph separators. A carriage return and a line feed right behind it end one line together.

## Main definitions

* `Text.lines` — the pieces of a text between line feeds.
* `Text.firstLine` — the part of a text before its first visual line end.
* `Text.visualLines` — the visual lines of a text.

## Main results

* `Text.head?_visualLines` — the first visual line of a text is its `firstLine`.
-/

namespace SourceLint.Text

/-- The code points that end a visual line. -/
def lineBreakRanges : Ranges :=
  [(0x0A, 0x0D), (0x1C, 0x1E), (0x85, 0x85), (0x2028, 0x2029)]

/-- A character that ends a visual line. -/
def isLineBreak (c : Char) : Bool :=
  lineBreakRanges.contains c

/-- The pieces of a text between line feeds. -/
def lines (cs : List Char) : List (List Char) :=
  splitWhere (· == '\n') cs

/-- The longest prefix of a text that holds no end of a visual line. -/
def firstLine (cs : List Char) : List Char :=
  cs.takeWhile fun c => !isLineBreak c

/-- The visual lines of a text; what follows the last line end is a line unless it is empty. -/
def visualLines : List Char → List (List Char)
  | [] => []
  | '\r' :: '\n' :: rest => [] :: visualLines rest
  | c :: rest =>
    if isLineBreak c then [] :: visualLines rest
    else
      match visualLines rest with
      | [] => [[c]]
      | line :: others => (c :: line) :: others

/-- The first of the visual lines is the excerpt. -/
theorem head?_visualLines {cs : List Char} (h : cs ≠ []) :
    (visualLines cs).head? = some (firstLine cs) := by
  fun_induction visualLines cs with
  | case1 => exact absurd rfl h
  | case2 => simp [firstLine, isLineBreak, lineBreakRanges, Ranges.contains]
  | case3 c rest _ hbreak => simp [firstLine, hbreak]
  | case4 c rest _ hbreak hlines ih =>
    cases rest with
    | nil => simp [firstLine, hbreak]
    | cons d rest => simp [hlines] at ih
  | case5 c rest _ hbreak line others hlines ih =>
    cases rest with
    | nil => simp [visualLines] at hlines
    | cons d rest =>
      have hline := ih (by simp)
      rw [hlines] at hline
      simp only [List.head?_cons, Option.some.injEq, firstLine] at hline ⊢
      simp [hbreak, hline]

end SourceLint.Text
