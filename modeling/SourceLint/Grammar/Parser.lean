import SourceLint.Log.Event
import SourceLint.Tree.Node

set_option autoImplicit false

/-!
# The parser as a boundary

Parsing itself is not the business of this library: a parser is built for a grammar and asked to
parse a source, and this is what it may answer. It gives a tree, possibly one recovered from a
source with errors; or no tree; or it fails. Failures are of kinds, and a kind may be a special case
of others. A failure of the library's own kind is reported as it is worded; one of a few common
kinds refuses the source; and any other one is passed on unchanged. It makes no difference whether
the parser fails or the building of it.

## Main definitions

* `FailureKind` — a kind of failure, with the kinds that it is a special case of.
* `Breakdown` — a failure of a parser.
* `refusalKinds` — the kinds of failure that refuse a source.
* `ParserReply` — what a parser may answer.
* `Parser` — what is answered about every source.
* `ParseFailure` — why a source has no tree.
* `ParseOutcome` — the outcome of parsing a source.
* `ParseOutcome.ofBreakdown` — what a failure of a parser comes to.

## Main results

* `ParseOutcome.ofBreakdown_of_isOwn`, `ParseOutcome.ofBreakdown_of_isRefusal`,
  `ParseOutcome.ofBreakdown_of_foreign` — the three ways to fail.
-/

namespace SourceLint

/-- The name of the library's own kind of failure. -/
def ownKind : String := "TreeSitterError"

/-- The names of the kinds of failure that refuse a source. -/
def refusalKinds : List String := ["ValueError", "TypeError", "RuntimeError"]

/-- A kind of failure: its name, and the names of the kinds that it is a special case of. The
library's own failures are runtime failures. -/
structure FailureKind where
  name : String
  general : List String := []
  isRuntime_of_isOwn : ownKind ∈ name :: general → "RuntimeError" ∈ name :: general := by decide
deriving DecidableEq, Repr

namespace FailureKind

/-- Whether a kind is another one, or a special case of it. -/
def isCaseOf (kind : FailureKind) (name : String) : Bool :=
  (kind.name :: kind.general).contains name

/-- The common kinds that are special cases of others. -/
def specialCases : List (String × List String) :=
  [(ownKind, ["RuntimeError"]), ("NotImplementedError", ["RuntimeError"]),
    ("RecursionError", ["RuntimeError"]), ("UnicodeError", ["ValueError"]),
    ("UnicodeDecodeError", ["UnicodeError", "ValueError"]),
    ("UnicodeEncodeError", ["UnicodeError", "ValueError"]),
    ("UnicodeTranslateError", ["UnicodeError", "ValueError"])]

/-- The kinds that the kind of a name is a special case of. -/
def generalOf (name : String) : List String :=
  ((specialCases.find? (·.1 == name)).map (·.2)).getD []

/-- No common kind is a special case of the library's own kind. -/
theorem ownKind_not_mem_generalOf (name : String) : ownKind ∉ generalOf name := by
  have hall : ∀ entry ∈ specialCases, ownKind ∉ entry.2 := by decide
  unfold generalOf
  cases hentry : specialCases.find? (·.1 == name) with
  | none => simp
  | some entry => exact hall entry (List.mem_of_find?_eq_some hentry)

/-- The kind of a name. -/
def ofName (name : String) : FailureKind where
  name := name
  general := generalOf name
  isRuntime_of_isOwn := by
    intro h
    rcases List.mem_cons.1 h with rfl | hgeneral
    · decide
    · exact absurd hgeneral (ownKind_not_mem_generalOf name)

example : (ofName "UnicodeDecodeError").isCaseOf "ValueError" = true := by decide

end FailureKind

/-- A failure of a parser, or of building one: what kind of failure it is, and its message. -/
structure Breakdown where
  kind : FailureKind
  message : String
deriving DecidableEq, Repr

namespace Breakdown

/-- Whether a failure is of the library's own kind. -/
def isOwn (breakdown : Breakdown) : Bool :=
  breakdown.kind.isCaseOf ownKind

/-- Whether a failure is of a kind that refuses a source. -/
def isRefusal (breakdown : Breakdown) : Bool :=
  refusalKinds.any breakdown.kind.isCaseOf

/-- The library's own failures are among those that refuse a source. -/
theorem isRefusal_of_isOwn {breakdown : Breakdown} (h : breakdown.isOwn = true) :
    breakdown.isRefusal = true := by
  have hruntime := breakdown.kind.isRuntime_of_isOwn (List.contains_iff_mem.1 h)
  exact List.any_eq_true.2 ⟨"RuntimeError", by decide, List.contains_iff_mem.2 hruntime⟩

end Breakdown

/-- What a parser may answer when asked to parse a source. -/
inductive ParserReply
  /-- A tree; `recovered` when the source had errors. -/
  | tree (root : Node) (recovered : Bool)
  /-- No tree. -/
  | nothing
  /-- The parser fails. -/
  | brokeDown (breakdown : Breakdown)

/-- A parser: what it answers about a source text under a grammar. -/
abbrev Parser := (grammar text : String) → ParserReply

/-- Why a source has no tree. -/
inductive ParseFailure
  /-- The grammar cannot be loaded. -/
  | grammarMissing (grammar : String)
  /-- The parser cannot be built, or it refused the source. -/
  | refused (grammar reason : String)
  /-- A failure of the library's own kind, as it is worded. -/
  | reported (message : String)
  /-- The parser gave no tree. -/
  | noTree (grammar : String)
deriving DecidableEq, Repr

/-- The words for a parse failure. -/
def ParseFailure.message : ParseFailure → String
  | .grammarMissing grammar => grammarMissingText grammar
  | .refused grammar reason =>
    "tree-sitter failed to parse " ++ Text.quote grammar ++ " source: " ++ reason
  | .reported message => message
  | .noTree grammar => "tree-sitter returned no tree for " ++ Text.quote grammar ++ " source"

/-- The outcome of parsing a source. -/
inductive ParseOutcome
  /-- There is a tree. -/
  | parsed (root : Node)
  /-- There is none, for a reason that concerns this source only. -/
  | failed (failure : ParseFailure)
  /-- The failure of the parser is passed on unchanged. -/
  | brokeDown (breakdown : Breakdown)

namespace ParseOutcome

/-- Parsing fails: there is no tree. -/
def IsFailure (outcome : ParseOutcome) : Prop :=
  ∀ root, outcome ≠ .parsed root

/-- What a failure comes to, of a parser for a grammar or of building that parser. -/
def ofBreakdown (grammar : String) (breakdown : Breakdown) : ParseOutcome :=
  if breakdown.isOwn then .failed (.reported breakdown.message)
  else if breakdown.isRefusal then .failed (.refused grammar breakdown.message)
  else .brokeDown breakdown

variable {grammar : String} {breakdown : Breakdown}

/-- A failure of the library's own kind is reported as it is worded. -/
theorem ofBreakdown_of_isOwn (h : breakdown.isOwn = true) :
    ofBreakdown grammar breakdown = .failed (.reported breakdown.message) := by
  rw [ofBreakdown, if_pos h]

/-- Any other failure of a kind that refuses a source does so. -/
theorem ofBreakdown_of_isRefusal (hforeign : breakdown.isOwn = false)
    (h : breakdown.isRefusal = true) :
    ofBreakdown grammar breakdown = .failed (.refused grammar breakdown.message) := by
  rw [ofBreakdown, if_neg (by simp [hforeign]), if_pos h]

/-- A failure of any other kind is passed on unchanged. -/
theorem ofBreakdown_of_foreign (h : breakdown.isRefusal = false) :
    ofBreakdown grammar breakdown = .brokeDown breakdown := by
  have hforeign : breakdown.isOwn ≠ true := fun hown => by
    simp [Breakdown.isRefusal_of_isOwn hown] at h
  rw [ofBreakdown, if_neg hforeign, if_neg (by simp [h])]

/-- Whatever the failure, there is no tree. -/
theorem isFailure_ofBreakdown : (ofBreakdown grammar breakdown).IsFailure := by
  intro root
  unfold ofBreakdown
  split
  · simp
  · split <;> simp

/-- No failure of a parser is taken for a missing grammar. -/
theorem ofBreakdown_ne_grammarMissing (missing : String) :
    ofBreakdown grammar breakdown ≠ .failed (.grammarMissing missing) := by
  unfold ofBreakdown
  split
  · simp
  · split <;> simp

/-- What is passed on is the failure itself, of a kind that does not refuse a source. -/
theorem ofBreakdown_eq_brokeDown_iff {passed : Breakdown} :
    ofBreakdown grammar breakdown = .brokeDown passed ↔
      breakdown.isRefusal = false ∧ breakdown = passed := by
  cases hrefusal : breakdown.isRefusal with
  | false => simp [ofBreakdown_of_foreign hrefusal]
  | true =>
    unfold ofBreakdown
    simp only [hrefusal]
    split <;> simp

end ParseOutcome

end SourceLint
