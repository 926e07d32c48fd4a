import SourceLint.Text.Blank
import SourceLint.Text.Case
import SourceLint.Text.Digit
import SourceLint.Text.Word

set_option autoImplicit false

/-!
# Patterns

A pattern denotes a set of words over the characters of a text, built from character classes by
union, concatenation and repetition. What a pattern means is stated by `Pattern.Matches`, without
any order of alternatives and without any preference for long or short matches; how it is matched
is the business of `SourceLint.Pattern.Derivative`.

## Main definitions

* `CharClass` — a set of characters.
* `Pattern` — a pattern over character classes.
* `Pattern.Matches` — the words that a pattern denotes.
* `Pattern.text`, `Pattern.anyOf`, `Pattern.chain` and their companions — the vocabulary in which
  the patterns of this library are written.
-/

namespace SourceLint

/-- A set of characters. -/
inductive CharClass
  /-- The one character. -/
  | exactly (c : Char)
  /-- The character in either letter case. -/
  | letter (c : Char)
  /-- Any of the listed characters. -/
  | oneOf (cs : List Char)
  /-- Any blank. -/
  | blank
  /-- Any decimal digit. -/
  | digit
  /-- Any word character. -/
  | word
deriving DecidableEq, Repr

/-- Whether a character belongs to a class. -/
def CharClass.contains : CharClass → Char → Bool
  | .exactly x, c => c == x
  | .letter x, c => Text.sameLetter x c
  | .oneOf xs, c => xs.contains c
  | .blank, c => Text.isBlank c
  | .digit, c => Text.isDigit c
  | .word, c => Text.isWord c

/-- A pattern over character classes. -/
inductive Pattern
  /-- No word. -/
  | never
  /-- The empty word. -/
  | empty
  /-- One character of a class. -/
  | one (cls : CharClass)
  /-- A word of either pattern. -/
  | alt (p q : Pattern)
  /-- A word of the first pattern, then one of the second. -/
  | seq (p q : Pattern)
  /-- Any number of words of the pattern, one after the other. -/
  | star (p : Pattern)
deriving DecidableEq, Repr

namespace Pattern

/-- The words that a pattern denotes. -/
inductive Matches : Pattern → List Char → Prop
  | empty : Matches .empty []
  | one {cls : CharClass} {c : Char} : cls.contains c = true → Matches (.one cls) [c]
  | altLeft {p q : Pattern} {w : List Char} : Matches p w → Matches (.alt p q) w
  | altRight {p q : Pattern} {w : List Char} : Matches q w → Matches (.alt p q) w
  | seq {p q : Pattern} {v w : List Char} :
      Matches p v → Matches q w → Matches (.seq p q) (v ++ w)
  | starNil {p : Pattern} : Matches (.star p) []
  | starCons {p : Pattern} {v w : List Char} :
      Matches p v → Matches (.star p) w → Matches (.star p) (v ++ w)

/-! ### Vocabulary -/

/-- Any of the listed patterns. -/
def anyOf : List Pattern → Pattern
  | [] => .never
  | [p] => p
  | p :: ps => .alt p (anyOf ps)

/-- The listed patterns, one after the other. -/
def chain : List Pattern → Pattern
  | [] => .empty
  | [p] => p
  | p :: ps => .seq p (chain ps)

/-- The characters of a string as they stand. -/
def exactText (s : String) : Pattern :=
  chain (s.toList.map fun c => .one (.exactly c))

/-- The characters of a string in any letter case. -/
def text (s : String) : Pattern :=
  chain (s.toList.map fun c => .one (.letter c))

/-- Any of the strings, in any letter case. -/
def texts (ss : List String) : Pattern :=
  anyOf (ss.map text)

/-- The pattern, or nothing. -/
def optional (p : Pattern) : Pattern :=
  .alt p .empty

/-- One or more words of the pattern. -/
def plus (p : Pattern) : Pattern :=
  .seq p (.star p)

/-- At least `n` words of the pattern. -/
def atLeast (n : Nat) (p : Pattern) : Pattern :=
  chain (List.replicate n p ++ [.star p])

/-- One blank. -/
def blank : Pattern := .one .blank

/-- Any number of blanks. -/
def blanks : Pattern := .star blank

/-- One or more blanks. -/
def someBlanks : Pattern := plus blank

/-- The parts with one or more blanks between neighbours. -/
def spaced (ps : List Pattern) : Pattern :=
  chain (ps.intersperse someBlanks)

end Pattern

end SourceLint
