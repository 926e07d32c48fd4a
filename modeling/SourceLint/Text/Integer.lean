import SourceLint.Text.Blank
import SourceLint.Text.Digit
import SourceLint.Text.Split

set_option autoImplicit false

/-!
# Written integers

An integer is written as an optional sign and decimal digits of any script, with single
underscores allowed between digits, and margins allowed at the ends. At most 4300 digits are read,
leading zeros included.

## Main definitions

* `Text.readInt?` — the value of a written integer.
-/

namespace SourceLint.Text

/-- The greatest number of digits of a written integer. -/
def maxIntegerDigits : Nat := 4300

/-- The digits of a sequence of digit groups, unless one is empty or holds something else. -/
def readDigitGroups? (groups : List (List Char)) : Option (List Nat) :=
  if groups.any List.isEmpty then none
  else groups.flatten.mapM digitValue?

/-- The value of an unsigned integer. -/
def readDigits? (cs : List Char) : Option Nat := do
  let digits ← readDigitGroups? (splitWhere (· == '_') cs)
  if digits.length ≤ maxIntegerDigits then some (digits.foldl (fun n d => 10 * n + d) 0) else none

/-- The value of a written integer. -/
def readInt? (cs : List Char) : Option Int :=
  match trim cs with
  | '-' :: digits => (readDigits? digits).map fun n => -(n : Int)
  | '+' :: digits => (readDigits? digits).map fun n => (n : Int)
  | digits => (readDigits? digits).map fun n => (n : Int)

example : readInt? " +1_000\n".toList = some 1000 ∧ readInt? "-7".toList = some (-7) := by decide

example : readInt? "1__0".toList = none ∧ readInt? "+ 5".toList = none := by decide

end SourceLint.Text
