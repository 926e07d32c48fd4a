import SourceLint.Tree.Source

set_option autoImplicit false

/-!
# Diagnostics

A finding is what a rule says of a node; a diagnostic is a finding at its place in a file.

## Main definitions

* `Finding` — a rule's verdict on a node.
* `Diagnostic` — a finding with file, position and excerpt.
* `Finding.at` — the diagnostic of a finding on a node.
-/

namespace SourceLint

/-- A rule's verdict on a node. -/
structure Finding where
  rule : String
  message : String
  note : String
deriving DecidableEq, Repr

/-- A finding at its place in a file. Lines and columns count from one, and the text is the first
line of the node. -/
structure Diagnostic where
  rule : String
  message : String
  note : Option String
  file : String
  line : Int
  column : Int
  text : String
deriving DecidableEq, Repr

/-- The diagnostic of a finding on a node. -/
def Finding.at (finding : Finding) (source : Source) (node : Node) : Diagnostic where
  rule := finding.rule
  message := finding.message
  note := some finding.note
  file := source.file
  line := (source.position node).line
  column := (source.position node).column
  text := String.ofList (source.excerpt node)

end SourceLint
