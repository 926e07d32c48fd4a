import SourceLint.Report.Styled
import SourceLint.Report.Table

set_option autoImplicit false

/-!
# Consoles

A report says what is printed in which style, and a table says what is in which cell. What becomes
of them on a terminal is up to a console: whether it shows colours, where it breaks lines and which
characters it draws. A console is any pair of functions for the two. The plain console shows styles
by the usual codes and draws tables with box characters.

## Main definitions

* `Console` — how lines and tables are printed.
* `Console.plain` — the plain console.
-/

namespace SourceLint

/-- How lines and tables are printed. -/
structure Console where
  /-- The text of a line of styled runs; colours are wanted or not. -/
  line : (color : Bool) → List StyledRun → String
  /-- The text of a table. -/
  table : Table → String

/-- The plain console; colours are shown on a terminal only. -/
def Console.plain (terminal : Bool) : Console where
  line color runs := String.ofList (StyledRun.render (color && terminal) runs)
  table := Table.render

end SourceLint
