import Mathlib.Data.List.Basic
import SourceLint.Proofs.Rule.Reach
import SourceLint.Scan

set_option autoImplicit false

/-!
# A scan leaves nothing out

The scan looks at few nodes and tries few rules on each: it walks the tree with a stack, keeps the
comment nodes for one pass and the handler nodes for another, selects the handler rules by language,
leaves the second pass out where it has nothing to do, and does not look at its findings again when
no directive was found.

The exhaustive scan makes none of these choices. It takes all named nodes in pre-order, tries every
comment rule on each of them and then every handler rule on each of them, and drops what is muted.
Both give the same diagnostics in the same order.

## Main definitions

* `Exhaustive.namedNodes` — the named nodes of a tree in pre-order.
* `Exhaustive.verdicts` — what some rules say of some nodes.
* `Exhaustive.diagnostics` — the diagnostics of the exhaustive scan.

## Main results

* `Exhaustive.verdicts_filter` — nodes and rules without findings can be left out.
* `Scan.diagnostics_eq_filter` — muting without the shortcut.
* `Scan.scan_eq_exhaustive` — the scan of a source is its exhaustive scan.
-/

namespace SourceLint

namespace Exhaustive

/-- The named nodes of a tree, each before its children and the children from left to right. -/
def namedNodes (root : Node) : List Node :=
  root.preorder.filter (·.named)

/-- What some rules say of some nodes: node by node, and for each node rule by rule. -/
def verdicts (source : Source) (nodes : List Node) (rules : List Rule) : List Diagnostic :=
  nodes.flatMap fun node => rules.filterMap fun rule =>
    (rule.check source node).map fun finding => finding.at source node

/-- The suppressions that the named comment nodes of a tree ask for, kept comments included. -/
def directives (source : Source) (root : Node) : Suppressions :=
  let comments := (namedNodes root).filter fun node => source.language.isComment node.kind
  .ofComments (comments.map fun node => ((source.position node).line, source.textOf node))

/-- The diagnostics of the exhaustive scan: all comment rules on all named nodes, then all handler
rules on all named nodes, and of these what is not muted. -/
def diagnostics (source : Source) (root : Node) : List Diagnostic :=
  let found := verdicts source (namedNodes root) Rule.comments ++
    verdicts source (namedNodes root) Rule.handlers
  found.filter fun diagnostic =>
    !(directives source root).isSuppressed diagnostic.rule (some diagnostic.line)

/-! ### Leaving out what finds nothing -/

/-- The pairs of the nodes and rules that are kept are the pairs of which both parts are kept. -/
lemma pairs_filter (p : Node → Bool) (q : Rule → Bool) (nodes : List Node) (rules : List Rule) :
    Scan.pairs (nodes.filter p) (rules.filter q) =
      (Scan.pairs nodes rules).filter fun trial => p trial.1 && q trial.2 := by
  induction nodes with
  | nil => rfl
  | cons node nodes ih =>
    unfold Scan.pairs at ih ⊢
    rw [List.filter_cons, List.flatMap_cons, List.filter_append, List.filter_map]
    by_cases hp : p node = true
    · rw [if_pos hp, List.flatMap_cons, ih]
      simp [Function.comp_def, hp]
    · rw [if_neg hp, ih]
      simp [Function.comp_def, hp]

variable {source : Source}

/-- The verdicts are the diagnostics of all pairs when every rule is in order. -/
lemma verdicts_eq_filterMap_pairs (nodes : List Node) (rules : List Rule) :
    verdicts source nodes rules = (Scan.pairs nodes rules).filterMap (Scan.tryRule [] source) := by
  rw [verdicts, Scan.pairs, List.filterMap_flatMap]
  congr 1
  funext node
  rw [List.filterMap_map]
  rfl

/-- Nodes and rules can be left out when every finding stems from one that is kept.

**Proof sketch.** The pairs that are left are those of which both parts are kept
(`pairs_filter`), and none of the others has a diagnostic. -/
lemma verdicts_filter {nodes : List Node} {rules : List Rule} {p : Node → Bool} {q : Rule → Bool}
    (h : ∀ node ∈ nodes, ∀ rule ∈ rules, ∀ finding, rule.check source node = some finding →
      p node = true ∧ q rule = true) :
    verdicts source (nodes.filter p) (rules.filter q) = verdicts source nodes rules := by
  rw [verdicts_eq_filterMap_pairs, verdicts_eq_filterMap_pairs, pairs_filter,
    List.filterMap_filter]
  apply List.filterMap_congr
  rintro ⟨node, rule⟩ htrial
  obtain ⟨hnode, hrule⟩ : node ∈ nodes ∧ rule ∈ rules := by
    simpa [Scan.pairs] using htrial
  split
  · rfl
  · rename_i hkept
    cases hcheck : rule.check source node with
    | none => simp [Scan.tryRule, RuleFaults.reason?, hcheck]
    | some finding =>
      have hboth := h node hnode rule hrule finding hcheck
      simp [hboth] at hkept

/-- Only comment nodes count for the comment rules. -/
lemma verdicts_comments (nodes : List Node) :
    verdicts source (nodes.filter fun node => source.language.isComment node.kind) Rule.comments =
      verdicts source nodes Rule.comments := by
  have hall : Rule.comments.filter (fun _ => true) = Rule.comments := by simp
  rw [← hall]
  apply verdicts_filter
  intro node _ rule hrule finding hcheck
  obtain ⟨rule, -, rfl⟩ := List.mem_map.1 hrule
  exact ⟨CommentRule.isComment_of_check hcheck, rfl⟩

/-- Only handler nodes and the handler rules of the language count for the handler rules. -/
lemma verdicts_handlers (nodes : List Node) :
    verdicts source (nodes.filter fun node => source.language.handlerKinds.contains node.kind)
        (Rule.handlersFor source.language.id) =
      verdicts source nodes Rule.handlers := by
  apply verdicts_filter
  intro node _ rule hrule finding hcheck
  obtain ⟨rule, -, rfl⟩ := List.mem_map.1 hrule
  refine ⟨?_, HandlerRule.appliesTo_of_check hcheck⟩
  simpa using HandlerRule.mem_handlerKinds_of_check hcheck

end Exhaustive

namespace Scan

/-! ### The choices of the scan -/

/-- The nodes of a pass are the named nodes of its kinds in pre-order. -/
lemma nodesOfKinds_eq (root : Node) (kinds : List String) :
    nodesOfKinds root kinds =
      (Exhaustive.namedNodes root).filter fun node => kinds.contains node.kind := by
  rw [nodesOfKinds, Node.walk_eq_preorder, Exhaustive.namedNodes, List.filter_filter]
  congr 1
  funext node
  exact Bool.and_comm _ _

/-- Leaving the second pass out where it has no rules or no nodes leaves no pair out. -/
lemma handlerTrials_eq (language : Language) (root : Node) :
    handlerTrials language root =
      pairs (handlerNodes language root) (Rule.handlersFor language.id) := by
  unfold handlerTrials
  dsimp only
  split
  · rename_i hnone
    rcases (Bool.or_eq_true_iff.1 hnone) with hrules | hkinds
    · simp [pairs, List.isEmpty_iff.1 hrules]
    · simp [pairs, handlerNodes, nodesOfKinds, List.isEmpty_iff.1 hkinds]
  · rfl

/-- What is muted is dropped, whether or not there are any directives. -/
lemma diagnostics_eq_filter (faults : RuleFaults) (source : Source) (root : Node) :
    diagnostics faults source root = (found faults source root).filter fun diagnostic =>
      !(suppressions source root).isSuppressed diagnostic.rule (some diagnostic.line) := by
  unfold diagnostics
  dsimp only
  split
  · rename_i hnone
    simp [List.isEmpty_iff.1 hnone, Suppressions.isSuppressed]
  · rfl

/-- The directives of a tree, from its named nodes in pre-order. -/
lemma suppressions_eq_directives (source : Source) (root : Node) :
    suppressions source root = Exhaustive.directives source root := by
  unfold suppressions commentNodes
  rw [nodesOfKinds_eq]
  rfl

/-- Without faults the two passes find what the exhaustive scan finds. -/
lemma found_eq_verdicts (source : Source) (root : Node) :
    found [] source root =
      Exhaustive.verdicts source (Exhaustive.namedNodes root) Rule.comments ++
        Exhaustive.verdicts source (Exhaustive.namedNodes root) Rule.handlers := by
  rw [found, trials, List.filterMap_append, handlerTrials_eq, commentTrials,
    ← Exhaustive.verdicts_eq_filterMap_pairs, ← Exhaustive.verdicts_eq_filterMap_pairs,
    commentNodes, handlerNodes, nodesOfKinds_eq, nodesOfKinds_eq, Exhaustive.verdicts_handlers]
  congr 1
  exact Exhaustive.verdicts_comments (Exhaustive.namedNodes root)

/-- The diagnostics of a tree are those of the exhaustive scan. -/
lemma diagnostics_eq_exhaustive (source : Source) (root : Node) :
    diagnostics [] source root = Exhaustive.diagnostics source root := by
  rw [diagnostics_eq_filter, found_eq_verdicts, suppressions_eq_directives]
  rfl

/-! ### The scan as a whole -/

/-- A tree that the parser gives is scanned when a parser was obtained for the grammar. -/
lemma value_scan_tree {supply : GrammarSupply} {source : Source}
    (hparser : (Loader.fresh.obtainParser supply source.language.grammar).answer = none)
    (faults : RuleFaults) (root : Node) (recovered : Bool) :
    (scan supply faults source (.tree root recovered)).value =
      .ok (diagnostics faults source root) := by
  cases recovered <;>
    simp [scan, Loader.parse, Loader.judge, hparser, Logged.value_bind, Logged.value_pure]

/-- Without a parser for the grammar, all scans fail alike. -/
lemma exists_value_scan_eq_error {supply : GrammarSupply} {grammar : String} {cause : NoParser}
    (hparser : (Loader.fresh.obtainParser supply grammar).answer = some cause) :
    ∃ failure, ∀ (faults : RuleFaults) (source : Source) (reply : ParserReply),
      source.language.grammar = grammar →
        (scan supply faults source reply).value = .error failure := by
  have hfails := cause.isFailure_outcome grammar
  cases houtcome : cause.outcome grammar with
  | parsed root => exact absurd houtcome (hfails root)
  | failed failure =>
    refine ⟨.unparsable failure, ?_⟩
    rintro faults source reply rfl
    simp only [scan, Loader.parse, hparser, houtcome]
  | brokeDown breakdown =>
    refine ⟨.brokeDown breakdown, ?_⟩
    rintro faults source reply rfl
    simp only [scan, Loader.parse, hparser, houtcome]

/-- A parser is obtained when the grammar can be loaded and nothing stands in the way. -/
lemma answer_obtainParser_fresh {supply : GrammarSupply} {grammar : String}
    (hload : supply.isLoadable grammar = true) (hbuild : supply.obstacle? grammar = none) :
    (Loader.fresh.obtainParser supply grammar).answer = none := by
  simp [Loader.obtainParser, Loader.fetch, Loader.fresh, hload, hbuild]

/-- **A scan leaves nothing out.** For every language, file name, text and tree, a scan in which
parsing succeeds and every rule is in order gives the diagnostics of the exhaustive scan: all rules
on all named nodes in pre-order, comment rules first, less what the directives mute.

**Proof sketch.** Both passes keep the nodes of their kinds in pre-order (`nodesOfKinds_eq`), and
no rule has a finding on a node or in a language that its pass leaves out
(`Exhaustive.verdicts_comments`, `Exhaustive.verdicts_handlers`). The directives come from the same
nodes, and without directives nothing is muted (`diagnostics_eq_filter`). -/
theorem scan_eq_exhaustive (supply : GrammarSupply) (file : String) (language : Language)
    (text : String) (root : Node) (recovered : Bool)
    (hload : supply.isLoadable language.grammar = true)
    (hbuild : supply.obstacle? language.grammar = none) :
    (scan supply [] (.ofText file language text) (.tree root recovered)).value =
      .ok (Exhaustive.diagnostics (.ofText file language text) root) := by
  have hparser : (Loader.fresh.obtainParser supply
      (Source.ofText file language text).language.grammar).answer = none :=
    answer_obtainParser_fresh hload hbuild
  rw [value_scan_tree hparser, diagnostics_eq_exhaustive]

/-- A file with two comments, the second one muted, and a handler that catches everything. -/
def sampleText : String :=
  "# Step 1\n# Step 2 sloplint: disable=all\ntry: f()\nexcept: pass\n"

/-- The tree of `sampleText`. -/
def sampleTree : Node :=
  let node (kind : String) (start stop row column : Nat) (children : List Node) : Node :=
    ⟨kind, true, start, stop, row, column, none, children⟩
  node "module" 0 62 0 0
    [node "comment" 0 8 0 0 [], node "comment" 9 39 1 0 [],
      node "try_statement" 40 61 2 0
        [node "except_clause" 49 61 3 0
          [node "block" 57 61 3 8 [node "pass_statement" 57 61 3 8 []]]]]

/-- A text with a comment that numbers a step and a handler that does nothing. -/
theorem scan_eq_exhaustive_sample :
    ∃ language, Language.ofId? "python" = some language ∧
      ({} : GrammarSupply).isLoadable language.grammar = true ∧
      ({} : GrammarSupply).obstacle? language.grammar = none ∧
      (scan {} [] (.ofText "a.py" language sampleText) (.tree sampleTree false)).value =
        .ok (Exhaustive.diagnostics (.ofText "a.py" language sampleText) sampleTree) ∧
      (Exhaustive.diagnostics (.ofText "a.py" language sampleText) sampleTree).map
          (fun diagnostic => (diagnostic.rule, diagnostic.line)) =
        [("step-comment", 1), ("empty-error-handler", 4), ("silent-exception", 4)] := by
  refine ⟨_, rfl, by decide, by decide, ?_, by decide +kernel⟩
  exact scan_eq_exhaustive {} "a.py" _ sampleText sampleTree false (by decide) (by decide)

end Scan

end SourceLint
