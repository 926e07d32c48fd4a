import SourceLint.Grammar.Parser

set_option autoImplicit false

/-!
# Failures that end a run

Most that can go wrong with a file is confined to that file. What is not confined ends the run: a
breakdown while a parser is built or while it parses, links that lead in a circle, a name that the
file system cannot hold, and a zero character where a path is expected.

## Main definitions

* `Failure` — why a run ended without a result.
* `Failure.message` — the words for it.
-/

namespace SourceLint

/-- Why a run ended without a result. -/
inductive Failure
  /-- The parser broke down, or building it did. -/
  | brokeDown (breakdown : Breakdown)
  /-- The links on a path lead in a circle. -/
  | linkLoop (path : String)
  /-- A name on a path, or the path itself, is too long. -/
  | nameTooLong (path : String)
  /-- A path holds a zero character. -/
  | zeroCharacter
deriving DecidableEq, Repr

/-- The words for a failure. -/
def Failure.message : Failure → String
  | .brokeDown breakdown => breakdown.message
  | .linkLoop path => "Symlink loop from " ++ Text.quote path
  | .nameTooLong path => "[Errno 36] File name too long: " ++ Text.quote path
  | .zeroCharacter => "embedded null byte"

end SourceLint
