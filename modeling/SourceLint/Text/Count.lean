import SourceLint.Text.Blank
import SourceLint.Text.Split

set_option autoImplicit false

/-!
# Written counts

A count is a whole number above zero, written in the ten common digits. A plus sign may stand before
it, and a point with one or more zeros behind it; margins may stand at its ends. Single underscores
may stand between its digits. Zeros in front add nothing, nor do the underscores among them and
behind them, however many there are; only the digits from the first one that is not zero are
limited, to 4300 of them.

Unlike in written integers, digits of other scripts are not admitted, and there is no minus sign.

## Main definitions

* `Text.readCount?` — the value of a written count.
-/

namespace SourceLint.Text

/-- The greatest number of digits of a written count, zeros in front left out. -/
def maxCountDigits : Nat := 4300

/-- A text without a plus sign in front. -/
def dropPlus : List Char → List Char
  | '+' :: rest => rest
  | cs => cs

/-- The part of a written number before its point, when one or more zeros and nothing else follow
that point; all of it when there is no point. -/
def wholePart? (cs : List Char) : Option (List Char) :=
  match cs.dropWhile (· != '.') with
  | [] => some cs
  | [_] => none
  | _ :: zeros => if zeros.all (· == '0') then some (cs.takeWhile (· != '.')) else none

/-- A written number without the zeros in front of it, and without the underscores that follow
them. -/
def significantPart : List Char → List Char
  | '0' :: rest => rest.dropWhile fun c => c == '0' || c == '_'
  | cs => cs

/-- The digits of a text with single underscores between them. -/
def countDigits? (cs : List Char) : Option (List Char) :=
  let groups := splitWhere (· == '_') cs
  if groups.any List.isEmpty || !groups.flatten.all Char.isDigit then none else some groups.flatten

/-- The value of a sequence of digits. -/
def digitsValue (digits : List Char) : Nat :=
  digits.foldl (fun n c => 10 * n + (c.toNat - '0'.toNat)) 0

/-- The value of a written count. -/
def readCount? (cs : List Char) : Option Nat := do
  let whole ← wholePart? (dropPlus (trim cs))
  let digits ← countDigits? (significantPart whole)
  if digits.length ≤ maxCountDigits && 0 < digitsValue digits then some (digitsValue digits)
  else none

example : readCount? " 2\n".toList = some 2 ∧ readCount? "+0__12.00".toList = some 12 := by decide

example : readCount? "1.5".toList = none ∧ readCount? "1.".toList = none := by decide

example : readCount? "1__0".toList = none ∧ readCount? "1_.0".toList = none := by decide

example : readCount? "\u0663".toList = none ∧ readCount? "-1".toList = none := by decide

example : readCount? "0_".toList = none ∧ readCount? "00.0".toList = none := by decide

end SourceLint.Text
