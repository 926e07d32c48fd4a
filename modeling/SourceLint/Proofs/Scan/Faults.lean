import SourceLint.Proofs.Scan.Isolation

set_option autoImplicit false

/-!
# Rules that are out of order

A rule that is out of order fails wherever it is tried. The scan goes on: the failure is reported in
place of the verdict, and whatever the other rules find stays as it is. So the diagnostics of a scan
with faults are those of the scan without faults, less those of the rules that are out of order; and
there is one warning for each node on which such a rule was tried.

The directives of the comments are read by no rule, so they mute the same as before.

## Main definitions

* `RuleFaults.ids` — the ids of the rules that are out of order.
* `Scan.warnings` — the warnings of rules on nodes, node by node.
* `Scan.faultWarnings` — the warnings of a tree: comment nodes first, then handler nodes.

## Main results

* `Scan.found_eq_filter` — what is found with faults and without.
* `Scan.faultEvents_eq_faultWarnings` — what is reported of faults.
* `Scan.scan_isolates_faults` — the scan with faults and the scan without.
-/

namespace SourceLint

namespace RuleFaults

variable {faults : RuleFaults} {rule : Rule}

/-- The ids of the rules that are out of order. -/
def ids (faults : RuleFaults) : List String :=
  faults.map (·.1)

/-- Why a rule is out of order, or nothing where it is in order. -/
def reasonOf (faults : RuleFaults) (rule : Rule) : String :=
  (faults.reason? rule).getD ""

/-- There is a reason for exactly the rules that are out of order. -/
lemma isSome_reason? : (faults.reason? rule).isSome = faults.ids.contains rule.id := by
  rw [Bool.eq_iff_iff, List.contains_iff_mem]
  simp [reason?, ids, List.find?_isSome]

/-- A rule that is in order has no reason to fail. -/
lemma reason?_eq_none (h : faults.ids.contains rule.id = false) : faults.reason? rule = none := by
  rwa [← isSome_reason?, Option.isSome_eq_false_iff, Option.isNone_iff_eq_none] at h

/-- A rule that is out of order fails for its reason. -/
lemma reason?_eq_some (h : faults.ids.contains rule.id = true) :
    faults.reason? rule = some (faults.reasonOf rule) := by
  rw [← isSome_reason?] at h
  obtain ⟨reason, hreason⟩ := Option.isSome_iff_exists.1 h
  rw [reasonOf, hreason, Option.getD_some]

end RuleFaults

namespace Scan

/-- The warning of a rule that is out of order and was tried on a node. -/
def warning (faults : RuleFaults) (source : Source) (trial : Node × Rule) : Event :=
  .ruleFailed trial.2.id trial.1.kind source.file (faults.reasonOf trial.2)

/-- The warnings of the rules that are out of order on the named nodes of some kinds: in pre-order,
and for each node in the order of the rules. -/
def warnings (faults : RuleFaults) (source : Source) (root : Node) (kinds : List String)
    (rules : List Rule) : List Event :=
  let nodes := (Exhaustive.namedNodes root).filter fun node => kinds.contains node.kind
  let failing := rules.filter fun rule => faults.ids.contains rule.id
  nodes.flatMap fun node => failing.map fun rule => warning faults source (node, rule)

/-- The warnings of a tree: those of the comment rules on its comment nodes, and then those of the
handler rules of the language on its handler nodes. -/
def faultWarnings (faults : RuleFaults) (source : Source) (root : Node) : List Event :=
  warnings faults source root source.language.commentKinds Rule.comments ++
    warnings faults source root source.language.handlerKinds
      (Rule.handlersFor source.language.id)

variable {faults : RuleFaults} {source : Source}

/-! ### What is found -/

/-- A trial with faults ends like the one without, unless its rule is out of order. -/
lemma tryRule_eq_filter (faults : RuleFaults) (source : Source) (trial : Node × Rule) :
    tryRule faults source trial =
      (tryRule [] source trial).filter fun diagnostic => !faults.ids.contains diagnostic.rule := by
  cases hsound : tryRule [] source trial with
  | none =>
    -- a rule without a finding has none when it is out of order
    unfold tryRule at hsound ⊢
    split
    · rfl
    · exact hsound
  | some diagnostic =>
    rw [Option.filter_some, rule_eq_of_tryRule hsound]
    cases hfails : faults.ids.contains trial.2.id with
    | true => simp [tryRule, RuleFaults.reason?_eq_some hfails]
    | false =>
      have hnone : tryRule faults source trial = tryRule [] source trial := by
        unfold tryRule
        rw [RuleFaults.reason?_eq_none hfails]
        rfl
      rw [hnone, hsound]
      rfl

/-- **What is found with faults** is what is found without, less the findings of the rules that are
out of order. -/
lemma found_eq_filter (faults : RuleFaults) (source : Source) (root : Node) :
    found faults source root = (found [] source root).filter fun diagnostic =>
      !faults.ids.contains diagnostic.rule := by
  rw [found, found, List.filter_filterMap]
  apply List.filterMap_congr
  intro trial _
  exact tryRule_eq_filter faults source trial

/-- What is muted does not depend on the faults. -/
lemma diagnostics_eq_filter_sound (faults : RuleFaults) (source : Source) (root : Node) :
    diagnostics faults source root = (diagnostics [] source root).filter fun diagnostic =>
      !faults.ids.contains diagnostic.rule := by
  rw [diagnostics_eq_filter, diagnostics_eq_filter, found_eq_filter, List.filter_comm]

/-! ### What is reported -/

/-- A pass over nodes and rules reports the rules that are out of order, node by node. -/
lemma filterMap_pairs_faultEvent? (nodes : List Node) (rules : List Rule) :
    (pairs nodes rules).filterMap (faultEvent? faults source) =
      nodes.flatMap fun node =>
        (rules.filter fun rule => faults.ids.contains rule.id).map fun rule =>
          warning faults source (node, rule) := by
  rw [pairs, List.filterMap_flatMap]
  congr 1
  funext node
  rw [List.filterMap_map, ← List.filterMap_eq_map, List.filterMap_filter]
  apply List.filterMap_congr
  intro rule _
  simp only [Function.comp_apply, faultEvent?]
  split
  · rename_i hfails
    rw [RuleFaults.reason?_eq_some hfails]
    rfl
  · rename_i hsound
    rw [RuleFaults.reason?_eq_none (Bool.eq_false_iff.2 hsound)]
    rfl

/-- **What is reported of faults**: one warning for each pair of a visited node and a rule that is
out of order, first in the pass over the comments and then in the pass over the handlers. -/
lemma faultEvents_eq_faultWarnings (faults : RuleFaults) (source : Source) (root : Node) :
    faultEvents faults source root = faultWarnings faults source root := by
  rw [faultEvents, trials, List.filterMap_append, handlerTrials_eq, commentTrials,
    filterMap_pairs_faultEvent?, filterMap_pairs_faultEvent?, commentNodes, handlerNodes,
    nodesOfKinds_eq, nodesOfKinds_eq]
  rfl

/-- Faults are reported as warnings. -/
lemma level_of_mem_faultWarnings {root : Node} {event : Event}
    (h : event ∈ faultWarnings faults source root) : event.level = .warning := by
  simp only [faultWarnings, warnings, List.mem_append, List.mem_flatMap, List.mem_map] at h
  rcases h with ⟨node, -, rule, -, rfl⟩ | ⟨node, -, rule, -, rfl⟩ <;> rfl

/-! ### The scan as a whole -/

/-- A scan of a tree for which a parser can be had reports how the tree came about, and then the
faults. -/
lemma events_scan_tree {supply : GrammarSupply} (faults : RuleFaults) (source : Source)
    (root : Node) (recovered : Bool)
    (hparser : (Loader.fresh.obtainParser supply source.language.grammar).answer = none) :
    (scan supply faults source (.tree root recovered)).events =
      (if recovered then [.recoveredTree source.language.grammar] else []) ++
        faultEvents faults source root := by
  cases recovered <;>
    simp [scan, Loader.parse, Loader.judge, hparser, Logged.report, Logged.events_bind,
      Logged.value_bind, Logged.events_pure, Logged.value_pure]

/-- **Faults of rules are confined.** For every language, source and tree, and whatever rules are
out of order: when parsing succeeds, the scan gives the diagnostics of the scan without faults in
the same order, less those of the rules that are out of order. It reports what the scan without
faults reports, and then one warning for each pair of a visited node and a rule out of order that is
tried on it: for the comment nodes in pre-order, each with the failing comment rules in order, and
then for the handler nodes in pre-order, each with the failing handler rules of the language. There
are no other warnings.

**Proof sketch.** A trial ends like the one without faults unless its rule is out of order, and what
it finds names its rule (`tryRule_eq_filter`). Muting drops diagnostics by rule and line and comes
from the comments alone, so it makes no difference whether a rule's diagnostics go before or after
(`diagnostics_eq_filter_sound`). -/
theorem scan_isolates_faults (supply : GrammarSupply) (faults : RuleFaults) (source : Source)
    (root : Node) (recovered : Bool)
    (hload : supply.isLoadable source.language.grammar = true)
    (hbuild : supply.obstacle? source.language.grammar = none) :
    ∃ sound, (scan supply [] source (.tree root recovered)).value = .ok sound ∧
      (scan supply faults source (.tree root recovered)).value =
        .ok (sound.filter fun diagnostic => !faults.ids.contains diagnostic.rule) ∧
      (scan supply faults source (.tree root recovered)).events =
        (scan supply [] source (.tree root recovered)).events ++
          faultWarnings faults source root ∧
      (scan supply faults source (.tree root recovered)).events.filter
          (fun event => event.level = .warning) = faultWarnings faults source root := by
  have hparser := answer_obtainParser_fresh hload hbuild
  have hsoundEvents : faultEvents [] source root = [] :=
    List.filterMap_eq_nil_iff.2 fun _ _ => rfl
  refine ⟨diagnostics [] source root, ?_, ?_, ?_, ?_⟩
  · exact value_scan_tree hparser [] root recovered
  · rw [value_scan_tree hparser, diagnostics_eq_filter_sound faults]
  · rw [events_scan_tree faults source root recovered hparser,
      events_scan_tree [] source root recovered hparser, hsoundEvents,
      faultEvents_eq_faultWarnings, List.append_nil]
  · have hwarnings : (faultWarnings faults source root).filter
        (fun event => event.level = .warning) = faultWarnings faults source root :=
      List.filter_eq_self.2 fun event hevent =>
        decide_eq_true (level_of_mem_faultWarnings hevent)
    rw [events_scan_tree faults source root recovered hparser, List.filter_append,
      faultEvents_eq_faultWarnings, hwarnings]
    cases recovered <;> rfl

/-- All handler rules apply to Python. -/
lemma handlersFor_python : Rule.handlersFor "python" = Rule.handlers := by
  have hlanguage : HandlerFamily.ofLanguage? "python" = some .python := by decide
  have hhandlers := HandlerRule.mem_handlerLanguages hlanguage
  have hidle := HandlerRule.mem_idleLanguages hlanguage (by decide)
  simp [Rule.handlersFor, Rule.handlers, HandlerRule.all, Rule.info, HandlerRule.info,
    RuleInfo.appliesTo, hhandlers, hidle]

/-- The sample as a source in Python. -/
def sampleSource : Source :=
  .ofText "a.py" ((Language.ofId? "python").get (by decide)) sampleText

/-- Two rules out of order, one of each pass. -/
def sampleFaults : RuleFaults :=
  [("silent-exception", "no body"), ("step-comment", "no digit")]

/-- Two rules are out of order: one that is tried on two comments, one that is tried on a handler.
-/
theorem scan_isolates_faults_sample :
    ({} : GrammarSupply).isLoadable sampleSource.language.grammar = true ∧
      ({} : GrammarSupply).obstacle? sampleSource.language.grammar = none ∧
      ∃ sound, (scan {} [] sampleSource (.tree sampleTree false)).value = .ok sound ∧
        (scan {} sampleFaults sampleSource (.tree sampleTree false)).value =
          .ok (sound.filter fun diagnostic => !sampleFaults.ids.contains diagnostic.rule) ∧
        (scan {} sampleFaults sampleSource (.tree sampleTree false)).events.filter
            (fun event => event.level = .warning) =
          [.ruleFailed "step-comment" "comment" "a.py" "no digit",
            .ruleFailed "step-comment" "comment" "a.py" "no digit",
            .ruleFailed "silent-exception" "except_clause" "a.py" "no body"] := by
  obtain ⟨sound, hsound, hvalue, -, hwarnings⟩ :=
    scan_isolates_faults {} sampleFaults sampleSource sampleTree false (by decide) (by decide)
  have hid : sampleSource.language.id = "python" := by decide
  refine ⟨by decide, by decide, sound, hsound, hvalue, hwarnings.trans ?_⟩
  rw [faultWarnings, hid, handlersFor_python]
  decide +kernel

end Scan

end SourceLint
