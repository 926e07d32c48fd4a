set_option autoImplicit false

/-!
# Ordered collections of strings

Strings are compared code point by code point, a text before its extensions. Collections that have
no order of their own are shown sorted by it.

## Main definitions

* `Text.sortStrings` — a list of strings in ascending order.
* `Text.sortedSet` — the distinct members of a list in ascending order.

## Main results

* `Text.mem_sortStrings` — sorting keeps the members.
-/

namespace SourceLint.Text

/-- A list of strings in ascending order of their code points. -/
def sortStrings (ss : List String) : List String :=
  ss.mergeSort fun s t => decide (s ≤ t)

/-- The distinct members of a list in ascending order. -/
def sortedSet (ss : List String) : List String :=
  sortStrings ss.eraseDups

/-- Sorting keeps what is in a list. -/
theorem mem_sortStrings {s : String} {ss : List String} : s ∈ sortStrings ss ↔ s ∈ ss :=
  List.mem_mergeSort

end SourceLint.Text
