import SourceLint.Proofs.Scan.Isolation
import SourceLint.Proofs.Tree.Traversal

set_option autoImplicit false

/-!
# Findings from top to bottom

A pass of the scan goes through the nodes in the order of the walk, and the findings of one node all
have the line where the node starts. So when the rows of a tree do not decrease in pre-order, which
is how parsers number them, the comment findings come from top to bottom. Muting takes some of them
away and moves none.

The findings on handlers form a list of their own behind those on comments, and there the lines may
start again.

## Main results

* `Scan.pairwise_line_pass` — the findings of one pass come from top to bottom.
* `Scan.walk_orders_findings` — the order of a walk, and that of the comment findings.
-/

namespace SourceLint

namespace Scan

variable {faults : RuleFaults} {source : Source}

/-- A diagnostic has the line where its node starts. -/
lemma line_eq_of_tryRule {trial : Node × Rule} {diagnostic : Diagnostic}
    (h : tryRule faults source trial = some diagnostic) : diagnostic.line = trial.1.row + 1 := by
  unfold tryRule at h
  split at h
  · simp at h
  · obtain ⟨finding, -, rfl⟩ := Option.map_eq_some_iff.1 h
    rfl

/-- Trying several rules on each node keeps the nodes in the order of their rows. -/
lemma pairwise_row_pairs {nodes : List Node} (hrows : nodes.Pairwise fun x y => x.row ≤ y.row)
    (rules : List Rule) : (pairs nodes rules).Pairwise fun x y => x.1.row ≤ y.1.row := by
  rw [pairs, List.pairwise_flatMap]
  constructor
  · intro node _
    rw [List.pairwise_map]
    exact List.pairwise_of_forall fun _ _ => le_rfl
  · refine hrows.imp ?_
    intro x y hle trial htrial trial' htrial'
    obtain ⟨rule, -, rfl⟩ := List.mem_map.1 htrial
    obtain ⟨rule', -, rfl⟩ := List.mem_map.1 htrial'
    exact hle

/-- **The findings of a pass** come from top to bottom when its nodes do. -/
lemma pairwise_line_pass {nodes : List Node} (hrows : nodes.Pairwise fun x y => x.row ≤ y.row)
    (rules : List Rule) (faults : RuleFaults) (source : Source) :
    ((pairs nodes rules).filterMap (tryRule faults source)).Pairwise
      fun x y => x.line ≤ y.line := by
  refine (pairwise_row_pairs hrows rules).filterMap _ ?_
  intro trial trial' hle x hx y hy
  rw [line_eq_of_tryRule hx, line_eq_of_tryRule hy]
  omega

/-- The comments of a tree come from top to bottom when all its nodes do. -/
lemma pairwise_row_commentNodes {root : Node}
    (hrows : root.preorder.Pairwise fun x y => x.row ≤ y.row) (language : Language) :
    (commentNodes language root).Pairwise fun x y => x.row ≤ y.row := by
  rw [commentNodes, nodesOfKinds, Node.walk_eq_preorder]
  exact hrows.filter _

/-- The comment findings of a tree come from top to bottom when its nodes do. -/
lemma pairwise_line_diagnostics {root : Node}
    (hrows : root.preorder.Pairwise fun x y => x.row ≤ y.row) (faults : RuleFaults)
    (source : Source) :
    ((diagnostics faults source root).filter (·.isOfComment)).Pairwise
      fun x y => x.line ≤ y.line := by
  rw [diagnostics_eq_filter, List.filter_comm, filter_isOfComment_found]
  exact (pairwise_line_pass (pairwise_row_commentNodes hrows _) _ _ _).filter _

/-- A scan of a tree gives no other diagnostics than those of the tree. -/
lemma eq_diagnostics_of_value_scan {supply : GrammarSupply} {root : Node} {recovered : Bool}
    {kept : List Diagnostic}
    (h : (scan supply faults source (.tree root recovered)).value = .ok kept) :
    kept = diagnostics faults source root := by
  cases hparser : (Loader.fresh.obtainParser supply source.language.grammar).answer with
  | some cause =>
    obtain ⟨failure, hfails⟩ := exists_value_scan_eq_error hparser
    cases (hfails faults source _ rfl).symm.trans h
  | none => exact Except.ok.inj (h.symm.trans (value_scan_tree hparser faults root recovered))

/-- **A walk is in pre-order, and so are the comment findings.** After any number of rounds, the
loop over the stack has visited as many nodes of the walk, and it is over once it has visited as
many as the tree has. The walk is the pre-order of the tree: it lists the nodes at all addresses,
each address once, ancestors before descendants, and a subtree before the subtrees to its right.
A scan for which a parser can be had gives diagnostics; and when the rows of the tree do not
decrease in pre-order, neither do the lines of the comment findings among them.

**Proof sketch.** A round moves one node from what is left to what is visited
(`WalkState.iterate_round_spec`), and pre-order lists the addresses (`Node.isListing_preorder`). The
first pass goes through a part of the pre-order (`pairwise_line_pass`), and the second pass has no
comment findings (`filter_isOfComment_found`). -/
theorem walk_orders_findings (root : Node) :
    (∀ rounds, (WalkState.round^[rounds] (.start root)).visited = root.walk.take rounds ∧
      ((WalkState.round^[rounds] (.start root)).stack = [] ↔ root.size ≤ rounds)) ∧
    root.walk = root.preorder ∧ root.walk.length = root.size ∧
    (∃ addresses, root.IsListing root.walk addresses) ∧
    ∀ (supply : GrammarSupply) (faults : RuleFaults) (source : Source) (recovered : Bool),
      (supply.isLoadable source.language.grammar = true →
        supply.obstacle? source.language.grammar = none →
        ∃ kept, (scan supply faults source (.tree root recovered)).value = .ok kept) ∧
      ((root.preorder.map (·.row)).Pairwise (· ≤ ·) →
        ∀ kept, (scan supply faults source (.tree root recovered)).value = .ok kept →
          ((kept.filter (·.isOfComment)).map (·.line)).Pairwise (· ≤ ·)) := by
  refine ⟨?_, root.walk_eq_preorder, root.length_walk, ?_, ?_⟩
  · intro rounds
    exact ⟨WalkState.visited_iterate_start root rounds,
      WalkState.stack_iterate_start_eq_nil_iff root rounds⟩
  · rw [Node.walk_eq_preorder]
    exact ⟨_, root.isListing_preorder⟩
  · intro supply faults source recovered
    refine ⟨fun hload hbuild =>
      ⟨_, value_scan_tree (answer_obtainParser_fresh hload hbuild) faults root recovered⟩, ?_⟩
    intro hrows kept hkept
    rw [List.pairwise_map] at hrows ⊢
    rw [eq_diagnostics_of_value_scan hkept]
    exact pairwise_line_diagnostics hrows faults source

/-- A file with comments before, in and after a statement with a handler. -/
def scatteredText : String :=
  "# Step 1\ntry: f()\nexcept: pass # Step 2\n# Step 3\n"

/-- The tree of `scatteredText`. -/
def scatteredTree : Node :=
  let node (kind : String) (start stop row column : Nat) (children : List Node) : Node :=
    ⟨kind, true, start, stop, row, column, none, children⟩
  node "module" 0 49 0 0
    [node "comment" 0 8 0 0 [],
      node "try_statement" 9 30 1 0
        [node "block" 14 17 1 5 [],
          node "except_clause" 18 30 2 0
            [node "block" 26 30 2 8 [node "pass_statement" 26 30 2 8 []],
              node "comment" 31 39 2 13 []]],
      node "comment" 40 48 3 0 []]

/-- Comments before, in and behind a statement are found in the order of their lines, and the rules
for handlers come after them. -/
theorem walk_orders_findings_scattered :
    ∃ language, Language.ofId? "python" = some language ∧
      (WalkState.round^[9] (.start scatteredTree)).visited = scatteredTree.preorder ∧
      (WalkState.round^[9] (.start scatteredTree)).stack = [] ∧
      (scatteredTree.preorder.map (·.row)).Pairwise (· ≤ ·) ∧
      ∃ kept, (scan {} [] (.ofText "a.py" language scatteredText)
          (.tree scatteredTree false)).value = .ok kept ∧
        kept.map (fun diagnostic => (diagnostic.rule, diagnostic.line)) =
          [("step-comment", 1), ("step-comment", 3), ("step-comment", 4),
            ("empty-error-handler", 3), ("silent-exception", 3)] ∧
        ((kept.filter (·.isOfComment)).map (·.line)).Pairwise (· ≤ ·) := by
  have hrows : (scatteredTree.preorder.map (·.row)).Pairwise (· ≤ ·) := by decide +kernel
  have hsize : scatteredTree.size = 9 := by decide +kernel
  obtain ⟨language, hlanguage, hload, hbuild, hfound⟩ :
      ∃ language, Language.ofId? "python" = some language ∧
        ({} : GrammarSupply).isLoadable language.grammar = true ∧
        ({} : GrammarSupply).obstacle? language.grammar = none ∧
        (diagnostics [] (.ofText "a.py" language scatteredText) scatteredTree).map
            (fun diagnostic => (diagnostic.rule, diagnostic.line)) =
          [("step-comment", 1), ("step-comment", 3), ("step-comment", 4),
            ("empty-error-handler", 3), ("silent-exception", 3)] := by
    refine ⟨_, rfl, by decide, by decide, ?_⟩
    rw [diagnostics_eq_exhaustive]
    decide +kernel
  have hvalue : (scan {} [] (.ofText "a.py" language scatteredText)
      (.tree scatteredTree false)).value =
        .ok (diagnostics [] (.ofText "a.py" language scatteredText) scatteredTree) :=
    value_scan_tree (answer_obtainParser_fresh hload hbuild) [] scatteredTree false
  obtain ⟨hloop, hwalk, hlength, -, hscan⟩ := walk_orders_findings scatteredTree
  have hvisited := (hloop 9).1
  rw [List.take_of_length_le (hlength.trans hsize).le, hwalk] at hvisited
  exact ⟨language, hlanguage, hvisited, (hloop 9).2.2 hsize.le, hrows, _, hvalue, hfound,
    (hscan {} [] _ false).2 hrows _ hvalue⟩

end Scan

end SourceLint
