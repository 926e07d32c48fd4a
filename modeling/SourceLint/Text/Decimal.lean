set_option autoImplicit false

/-!
# Decimal notation

Numbers as they stand in messages and reports: the usual digits without leading zeros, and a
minus sign before a negative number.

## Main definitions

* `Text.decimalDigits` — the digits of a natural number.
* `Text.decimal` — the notation of an integer.
-/

namespace SourceLint.Text

/-- The digit of a number below ten. -/
def decimalDigit (d : Nat) : Char :=
  Char.ofNat ('0'.toNat + d)

/-- The digits of a natural number, without leading zeros. -/
def decimalDigits (n : Nat) : List Char :=
  if n < 10 then [decimalDigit n]
  else decimalDigits (n / 10) ++ [decimalDigit (n % 10)]

/-- The notation of an integer. -/
def decimalChars (n : Int) : List Char :=
  if n < 0 then '-' :: decimalDigits n.natAbs else decimalDigits n.natAbs

/-- The notation of an integer, as a string. -/
def decimal (n : Int) : String :=
  String.ofList (decimalChars n)

end SourceLint.Text
