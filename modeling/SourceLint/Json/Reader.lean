import SourceLint.Json.Basic

set_option autoImplicit false

/-!
# Reading JSON

A reader for JSON texts whose numbers are whole. Blanks may stand between any two tokens. Each
reading function returns what it read and the rest of the text. Nested values are read with a bound
on the depth of calls; every call reads at least one character before the next, so the length of
the text bounds it.

## Main definitions

* `Json.readStringBody` — a string from behind its opening quote.
* `Json.readValue` — a value of any form.
* `Json.parse?` — the value of a whole text.
-/

namespace SourceLint.Json

/-- The blanks that may stand between tokens. -/
def isGap (c : Char) : Bool :=
  c == ' ' || c == '\n' || c == '\r' || c == '\t'

/-- The text from its next token on. -/
def skipGap (cs : List Char) : List Char :=
  cs.dropWhile isGap

/-- The value of a hexadecimal digit. -/
def hexValue? (c : Char) : Option Nat :=
  if '0' ≤ c ∧ c ≤ '9' then some (c.toNat - '0'.toNat)
  else if 'a' ≤ c ∧ c ≤ 'f' then some (c.toNat - 'a'.toNat + 10)
  else if 'A' ≤ c ∧ c ≤ 'F' then some (c.toNat - 'A'.toNat + 10)
  else none

/-- The value of four hexadecimal digits. -/
def hexUnit? (a b c d : Char) : Option Nat := do
  return 0x1000 * (← hexValue? a) + 0x100 * (← hexValue? b) + 0x10 * (← hexValue? c) +
    (← hexValue? d)

/-- The character that a one-letter escape stands for. -/
def escaped? : Char → Option Char
  | '"' => some '"'
  | '\\' => some '\\'
  | '/' => some '/'
  | 'b' => some '\x08'
  | 'f' => some '\x0c'
  | 'n' => some '\n'
  | 'r' => some '\r'
  | 't' => some '\t'
  | _ => none

/-- The character of a numeric escape, unless it is one half of a pair. -/
def ofUnit? (unit : Nat) : Option Char :=
  if 0xD800 ≤ unit ∧ unit < 0xE000 then none else some (Char.ofNat unit)

/-- The character that two halves stand for. -/
def ofUnitPair? (high low : Nat) : Option Char :=
  if 0xD800 ≤ high ∧ high < 0xDC00 ∧ 0xDC00 ≤ low ∧ low < 0xE000 then
    some (Char.ofNat (0x10000 + 0x400 * (high - 0xD800) + (low - 0xDC00)))
  else none

/-- Puts a character before what the rest of a string gave. -/
def consChar (c : Char) (read : List Char × List Char) : List Char × List Char :=
  (c :: read.1, read.2)

/-- Reads a string from behind its opening quote: its characters, and the rest of the text behind
the closing quote. -/
def readStringBody : List Char → Option (List Char × List Char)
  | [] => none
  | '"' :: rest => some ([], rest)
  | '\\' :: 'u' :: a :: b :: c :: d :: rest =>
    match (hexUnit? a b c d).bind ofUnit? with
    | some char => (readStringBody rest).map (consChar char)
    | none =>
      match rest with
      | '\\' :: 'u' :: e :: f :: g :: h :: rest =>
        match (do ofUnitPair? (← hexUnit? a b c d) (← hexUnit? e f g h)) with
        | some char => (readStringBody rest).map (consChar char)
        | none => none
      | _ => none
  | '\\' :: letter :: rest =>
    match escaped? letter with
    | some char => (readStringBody rest).map (consChar char)
    | none => none
  | char :: rest =>
    if char.toNat < 0x20 ∨ char = '\\' then none else (readStringBody rest).map (consChar char)

/-- Reads a string with its quotes. -/
def readString : List Char → Option (String × List Char)
  | '"' :: rest => (readStringBody rest).map fun read => (String.ofList read.1, read.2)
  | _ => none

/-- The value of a sequence of decimal digits. -/
def digitsValue (digits : List Char) : Nat :=
  digits.foldl (fun n d => 10 * n + (d.toNat - '0'.toNat)) 0

/-- Reads a natural number of at least one digit. -/
def readNat (cs : List Char) : Option (Nat × List Char) :=
  match cs.takeWhile Char.isDigit with
  | [] => none
  | digits => some (digitsValue digits, cs.dropWhile Char.isDigit)

/-- Reads an integer. -/
def readNumber : List Char → Option (Int × List Char)
  | '-' :: rest => (readNat rest).map fun read => (-(read.1 : Int), read.2)
  | cs => (readNat cs).map fun read => ((read.1 : Int), read.2)

mutual

/-- Reads a value, blanks before it included. -/
def readValue (depth : Nat) (cs : List Char) : Option (Json × List Char) :=
  match depth with
  | 0 => none
  | depth + 1 =>
    match skipGap cs with
    | 'n' :: 'u' :: 'l' :: 'l' :: rest => some (.null, rest)
    | 't' :: 'r' :: 'u' :: 'e' :: rest => some (.bool true, rest)
    | 'f' :: 'a' :: 'l' :: 's' :: 'e' :: rest => some (.bool false, rest)
    | '"' :: rest => (readStringBody rest).map fun read => (.string (String.ofList read.1), read.2)
    | '[' :: rest =>
      match skipGap rest with
      | ']' :: rest => some (.array [], rest)
      | rest => (readItems depth rest).map fun read => (.array read.1, read.2)
    | '\x7b' :: rest =>
      match skipGap rest with
      | '\x7d' :: rest => some (.object [], rest)
      | rest => (readMembers depth rest).map fun read => (.object read.1, read.2)
    | rest => (readNumber rest).map fun read => (.number read.1, read.2)

/-- Reads the items of an array up to its closing bracket; there is at least one. -/
def readItems (depth : Nat) (cs : List Char) : Option (List Json × List Char) :=
  match depth with
  | 0 => none
  | depth + 1 => do
    let (item, rest) ← readValue depth cs
    match skipGap rest with
    | ']' :: rest => some ([item], rest)
    | ',' :: rest =>
      let (items, rest) ← readItems depth rest
      some (item :: items, rest)
    | _ => none

/-- Reads the members of an object up to its closing brace; there is at least one. -/
def readMembers (depth : Nat) (cs : List Char) : Option (List (String × Json) × List Char) :=
  match depth with
  | 0 => none
  | depth + 1 => do
    let (name, rest) ← readString (skipGap cs)
    match skipGap rest with
    | ':' :: rest =>
      let (value, rest) ← readValue depth rest
      match skipGap rest with
      | '\x7d' :: rest => some ([(name, value)], rest)
      | ',' :: rest =>
        let (members, rest) ← readMembers depth rest
        some ((name, value) :: members, rest)
      | _ => none
    | _ => none

end

/-- The value of a whole text. -/
def parse? (cs : List Char) : Option Json := do
  let (json, rest) ← readValue (cs.length + 1) cs
  if (skipGap rest).isEmpty then some json else none

end SourceLint.Json
