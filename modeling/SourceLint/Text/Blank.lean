import SourceLint.Text.Ranges

set_option autoImplicit false

/-!
# Blanks

A blank is any character that separates words or lines: space, tab, the line and page breaks, the
four information separators, the no-break spaces and the spaces of other scripts. The zero-width
space and the byte order mark are no blanks.

## Main definitions

* `Text.isBlank` — the class of blanks.
* `Text.strip` — a text without the blanks at its ends.
* `Text.withoutBlanks` — a text without any blanks.
* `Text.isMargin`, `Text.trim` — the blanks that may stand around a written number.
-/

namespace SourceLint.Text

/-- The code points of all blanks. -/
def blankRanges : Ranges :=
  [(0x09, 0x0D), (0x1C, 0x20), (0x85, 0x85), (0xA0, 0xA0), (0x1680, 0x1680), (0x2000, 0x200A),
    (0x2028, 0x2029), (0x202F, 0x202F), (0x205F, 0x205F), (0x3000, 0x3000)]

/-- A character that separates words or lines. -/
def isBlank (c : Char) : Bool :=
  blankRanges.contains c

/-- A text without the blanks at its end. -/
def stripEnd (cs : List Char) : List Char :=
  (cs.reverse.dropWhile isBlank).reverse

/-- A text without the blanks at its ends. -/
def strip (cs : List Char) : List Char :=
  stripEnd (cs.dropWhile isBlank)

/-- A string without the blanks at its ends. -/
def stripString (s : String) : String :=
  String.ofList (strip s.toList)

/-- A text without any blanks. -/
def withoutBlanks (cs : List Char) : List Char :=
  cs.filter fun c => !isBlank c

/-- A blank that may stand around a written number: any but the four information separators. -/
def isMargin (c : Char) : Bool :=
  isBlank c && !(0x1C ≤ c.toNat && c.toNat ≤ 0x1F)

/-- A text without the margins at its ends. -/
def trim (cs : List Char) : List Char :=
  ((cs.dropWhile isMargin).reverse.dropWhile isMargin).reverse

end SourceLint.Text
