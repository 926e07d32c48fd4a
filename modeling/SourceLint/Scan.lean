import SourceLint.Grammar.Loader
import SourceLint.Rule.Catalogue
import SourceLint.Suppression.Basic

set_option autoImplicit false

/-!
# Scanning a source

A source is scanned in two passes over its tree. The first pass tries the comment rules on every
named comment node, the second the handler rules of the language on every named handler node; each
pass follows the order of a walk, and for each node the order of the rules. The second pass is left
out where the language has no handler rules or no handlers. Findings that the directives in the
comments mute are then dropped; without any directives nothing is looked at again.

A rule may be out of order, in which case it finds nothing: each time it would have been tried, its
failure is reported instead, and the scan goes on.

## Main definitions

* `RuleFaults` — the rules that are out of order, with the reason for each.
* `Scan.trials` — the pairs of node and rule that are tried, in order.
* `Scan.found` — the diagnostics of a tree, muted or not.
* `Scan.diagnostics` — the diagnostics of a tree.
* `Scan.scan` — the scan of a source, from the parser's reply to the diagnostics.
-/

namespace SourceLint

/-- The rules that are out of order, by id, with the reason for each. -/
abbrev RuleFaults := List (String × String)

/-- Why a rule is out of order. -/
def RuleFaults.reason? (faults : RuleFaults) (rule : Rule) : Option String :=
  (faults.find? (·.1 == rule.id)).map (·.2)

/-- Why a scan has no diagnostics to give. -/
inductive ScanFailure
  /-- The source has no tree. -/
  | unparsable (failure : ParseFailure)
  /-- The parser broke down. -/
  | brokeDown (breakdown : Breakdown)

namespace Scan

/-- The named nodes of the given kinds, in the order of a walk. -/
def nodesOfKinds (root : Node) (kinds : List String) : List Node :=
  root.walk.filter fun node => node.named && kinds.contains node.kind

/-- The named comment nodes of a tree. -/
def commentNodes (language : Language) (root : Node) : List Node :=
  nodesOfKinds root language.commentKinds

/-- The named handler nodes of a tree. -/
def handlerNodes (language : Language) (root : Node) : List Node :=
  nodesOfKinds root language.handlerKinds

/-- Every node with every rule: node by node, and for each node rule by rule. -/
def pairs (nodes : List Node) (rules : List Rule) : List (Node × Rule) :=
  nodes.flatMap fun node => rules.map fun rule => (node, rule)

/-- The pairs of the first pass. -/
def commentTrials (language : Language) (root : Node) : List (Node × Rule) :=
  pairs (commentNodes language root) Rule.comments

/-- The pairs of the second pass, which is left out where it has no rules or no nodes to try. -/
def handlerTrials (language : Language) (root : Node) : List (Node × Rule) :=
  let rules := Rule.handlersFor language.id
  if rules.isEmpty || language.handlerKinds.isEmpty then []
  else pairs (handlerNodes language root) rules

/-- The pairs of node and rule that are tried, in order. -/
def trials (language : Language) (root : Node) : List (Node × Rule) :=
  commentTrials language root ++ handlerTrials language root

/-- What a trial reports when its rule is out of order. -/
def faultEvent? (faults : RuleFaults) (source : Source) (trial : Node × Rule) : Option Event :=
  (faults.reason? trial.2).map fun reason =>
    .ruleFailed trial.2.id trial.1.kind source.file reason

/-- The diagnostic of a trial, when its rule is in order and has a finding. -/
def tryRule (faults : RuleFaults) (source : Source) (trial : Node × Rule) : Option Diagnostic :=
  match faults.reason? trial.2 with
  | some _ => none
  | none => (trial.2.check source trial.1).map fun finding => finding.at source trial.1

/-- The suppressions that the comments of a tree ask for. -/
def suppressions (source : Source) (root : Node) : Suppressions :=
  .ofComments ((commentNodes source.language root).map fun node =>
    ((source.position node).line, source.textOf node))

/-- The diagnostics of a tree, muted or not. -/
def found (faults : RuleFaults) (source : Source) (root : Node) : List Diagnostic :=
  (trials source.language root).filterMap (tryRule faults source)

/-- The diagnostics of a tree, those that are muted left out. -/
def diagnostics (faults : RuleFaults) (source : Source) (root : Node) : List Diagnostic :=
  let muted := suppressions source root
  if muted.isEmpty then found faults source root
  else (found faults source root).filter fun diagnostic =>
    !muted.isSuppressed diagnostic.rule (some diagnostic.line)

/-- The failures of rules that are reported for a tree. -/
def faultEvents (faults : RuleFaults) (source : Source) (root : Node) : List Event :=
  (trials source.language root).filterMap (faultEvent? faults source)

/-- The scan of a source, about which the parser replies as given. -/
def scan (supply : GrammarSupply) (faults : RuleFaults) (source : Source) (reply : ParserReply) :
    Logged (Except ScanFailure (List Diagnostic)) :=
  let parsed := Loader.fresh.parse supply source.language.grammar reply
  match parsed.answer with
  | .parsed root =>
    ⟨parsed.events ++ faultEvents faults source root, .ok (diagnostics faults source root)⟩
  | .failed failure => ⟨parsed.events, .error (.unparsable failure)⟩
  | .brokeDown breakdown => ⟨parsed.events, .error (.brokeDown breakdown)⟩

end Scan

end SourceLint
