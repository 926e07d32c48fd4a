import SourceLint.Suppression.Directive
import SourceLint.Text.Lines
import SourceLint.Text.Order

set_option autoImplicit false

/-!
# Suppressions

The directives of all comments of a file together mute rules, on single lines or in the whole file.
A suppression is one muted id with the place where it is muted; all of them form a set, so neither
the order of the comments nor repetitions matter. The id `all` mutes every rule.

## Main definitions

* `Suppression` — one id, muted on a line or in the whole file.
* `Suppressions.ofComments` — the suppressions of numbered comments.
* `Suppressions.isSuppressed` — whether a rule is muted on a line.
* `Suppressions.fileIds`, `Suppressions.lineIds` — the muted ids, by place.
-/

namespace SourceLint

/-- An id that is muted on one line, or in the whole file when no line is given. -/
structure Suppression where
  line : Option Int
  id : String
deriving DecidableEq, Repr

namespace Suppression

/-- Whether a suppression covers a line; only one for the whole file covers the file as such, for
which no line is given. -/
def covers (suppression : Suppression) (line : Option Int) : Bool :=
  suppression.line.isNone || suppression.line == line

/-- Whether a muted id speaks of a rule. -/
def names (suppression : Suppression) (rule : String) : Bool :=
  suppression.id == "all" || suppression.id == Text.lowerString rule

end Suppression

/-- The suppressions of a file. -/
abbrev Suppressions := List Suppression

/-- The line on which a directive of a scope mutes; none when it mutes in the whole file. -/
def Scope.place : Scope → Int → Option Int
  | .line, number => some number
  | .nextLine, number => some (number + 1)
  | .file, _ => none

/-- The suppressions of a directive that stands on a line. -/
def Directive.suppressions (directive : Directive) (line : Int) : Suppressions :=
  directive.ids.map fun id => ⟨directive.scope.place line, id⟩

namespace Suppressions

/-- The suppressions of a text line with a number. -/
def ofLine (number : Int) (cs : List Char) : Suppressions :=
  (Directive.findAll cs).flatMap (·.suppressions number)

/-- The suppressions of text lines whose first one has a number. -/
def ofLines (number : Int) : List (List Char) → Suppressions
  | [] => []
  | line :: rest => ofLine number line ++ ofLines (number + 1) rest

/-- The suppressions of a comment that starts on a line. -/
def ofComment (number : Int) (cs : List Char) : Suppressions :=
  ofLines number (Text.lines cs)

/-- The suppressions of comments, each given with the line that it starts on. -/
def ofComments (comments : List (Int × List Char)) : Suppressions :=
  comments.flatMap fun comment => ofComment comment.1 comment.2

/-- Whether a rule is muted on a line, or in the whole file when no line is given. -/
def isSuppressed (suppressions : Suppressions) (rule : String) (line : Option Int) : Bool :=
  suppressions.any fun suppression => suppression.covers line && suppression.names rule

/-- The ids that are muted in a place. -/
def idsAt (suppressions : Suppressions) (place : Option Int) : List String :=
  Text.sortedSet ((suppressions.filter (·.line == place)).map (·.id))

/-- The ids that are muted in the whole file, in ascending order. -/
def fileIds (suppressions : Suppressions) : List String :=
  suppressions.idsAt none

/-- The lines on which ids are muted, in ascending order. -/
def mutedLines (suppressions : Suppressions) : List Int :=
  (suppressions.filterMap (·.line)).eraseDups.mergeSort fun m n => decide (m ≤ n)

/-- The ids that are muted on single lines, in ascending order of lines and ids. -/
def lineIds (suppressions : Suppressions) : List (Int × List String) :=
  suppressions.mutedLines.map fun line => (line, suppressions.idsAt (some line))

end Suppressions

end SourceLint
