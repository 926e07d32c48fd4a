import SourceLint.Text.Printable

set_option autoImplicit false

/-!
# Quoted texts

Messages quote the names they speak of. A quoted text stands between single quotes, or between
double quotes when it holds a single quote and no double one. The quote in use and the backslash
are escaped by a backslash; line feed, carriage return and tab have letters of their own; every
other character that is not printable is written by its code point in two, four or eight
hexadecimal digits.

## Main definitions

* `Text.quote` — the quoted form of a text.
-/

namespace SourceLint.Text

/-- A number in lower-case hexadecimal digits, filled up with zeros to a width. -/
def hexadecimal (width n : Nat) : List Char :=
  let digits := Nat.toDigits 16 n
  List.replicate (width - digits.length) '0' ++ digits

/-- The quote that encloses a text: the double quote exactly when the text holds a single quote
and no double one. -/
def quoteMark (cs : List Char) : Char :=
  if cs.contains '\x27' && !cs.contains '"' then '"' else '\x27'

/-- One character of a text quoted with `mark`. -/
def quoteChar (mark c : Char) : List Char :=
  if c = mark ∨ c = '\\' then ['\\', c]
  else if c = '\n' then ['\\', 'n']
  else if c = '\r' then ['\\', 'r']
  else if c = '\t' then ['\\', 't']
  else if isPrintable c then [c]
  else if c.toNat < 0x100 then '\\' :: 'x' :: hexadecimal 2 c.toNat
  else if c.toNat < 0x10000 then '\\' :: 'u' :: hexadecimal 4 c.toNat
  else '\\' :: 'U' :: hexadecimal 8 c.toNat

/-- The quoted form of a string. -/
def quote (s : String) : String :=
  let mark := quoteMark s.toList
  String.ofList (mark :: s.toList.flatMap (quoteChar mark) ++ [mark])

example : quote "it's" = "\"it's\"" ∧ quote "say \"it's\"" = "'say \"it\\'s\"'" := by decide

example : quote "a\tb\x01" = "'a\\tb\\x01'" := by decide

end SourceLint.Text
