set_option autoImplicit false

/-!
# Ranges of code points

Character classes beyond the seven-bit range are given as tables of closed intervals of code
points, in ascending order and without overlap.

## Main definitions

* `Text.Ranges` — a table of closed intervals.
* `Text.Ranges.contains` — whether a character lies in one of them.

## Main results

* `Text.Ranges.contains_iff` — membership in a table, interval by interval.
-/

namespace SourceLint.Text

/-- A set of code points, as a list of closed intervals in ascending order. -/
abbrev Ranges := List (Nat × Nat)

/-- Whether a character lies in one of the intervals. -/
def Ranges.contains (ranges : Ranges) (c : Char) : Bool :=
  ranges.any fun range => range.1 ≤ c.toNat && c.toNat ≤ range.2

/-- Ranges contain the characters of each of them. -/
theorem Ranges.contains_iff {ranges : Ranges} {c : Char} :
    ranges.contains c = true ↔ ∃ range ∈ ranges, range.1 ≤ c.toNat ∧ c.toNat ≤ range.2 := by
  simp [Ranges.contains]

end SourceLint.Text
