import SourceLint.Pattern.Derivative
import SourceLint.Text.Split

set_option autoImplicit false

/-!
# Languages

What the linter knows of a programming language: its names, how its grammar calls a comment, the
extensions of its files, and the directives by which its tools are steered from comments.

A tool directive is recognised by its spelling anywhere in a comment. Most spellings are one word;
some have parts between which any number of blanks may stand.

## Main definitions

* `Spelling` — the parts of a directive's spelling.
* `ToolDirectives` — the spellings of a language, and whether their letter case counts.
* `Language` — one programming language.
-/

namespace SourceLint

/-- The parts of a directive's spelling; any number of blanks may stand between two parts. -/
abbrev Spelling := List String

/-- The directives by which a language's tools are steered from comments. -/
structure ToolDirectives where
  spellings : List Spelling
  anyCase : Bool := true

namespace ToolDirectives

/-- The pattern of all spellings. -/
def pattern (directives : ToolDirectives) : Pattern :=
  .anyOf (directives.spellings.map fun parts =>
    .chain ((parts.map (if directives.anyCase then Pattern.text else Pattern.exactText)).intersperse
      .blanks))

/-- The spellings in the usual notation for patterns, as listings of languages show them. -/
def notationText (directives : ToolDirectives) : String :=
  Text.joinWith "|" (directives.spellings.map (Text.joinWith "\\s*"))

/-- Whether a text holds one of the directives. -/
def occurIn (directives : ToolDirectives) (cs : List Char) : Bool :=
  directives.pattern.occursIn cs

end ToolDirectives

/-- One programming language. -/
structure Language where
  /-- The name under which the language is selected and reported. -/
  id : String
  /-- The name of its grammar. -/
  grammar : String
  /-- The kinds of the syntax nodes that are comments. -/
  commentKinds : List String
  /-- The extensions of its files, in lower case and with their dots. -/
  extensions : List String
  /-- The directives of its tools. -/
  toolDirectives : ToolDirectives

/-- Whether nodes of a kind are comments. -/
def Language.isComment (language : Language) (kind : String) : Bool :=
  language.commentKinds.contains kind

end SourceLint
