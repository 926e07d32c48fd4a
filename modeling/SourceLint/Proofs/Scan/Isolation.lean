import SourceLint.Proofs.Scan.Exhaustive

set_option autoImplicit false

/-!
# Code outside comments is not listened to

Directives are read from comments and comment rules judge comments, so whatever a file says in its
strings and in its code can neither mute a finding nor give rise to a comment finding. This is a
statement on two scans: when two sources have the same bytes on every comment of a tree, the scans
of this tree find the same comments and mute the same findings. The rest of the bytes is free, and
so are the names of the files.

Of a comment finding only the column may differ, which counts the characters in front of the
comment. A handler finding may come and go with the code, but not be muted or unmuted by it.

## Main definitions

* `Remark` — what a diagnostic says, apart from its file and column.
* `Scan.commentRemarks` — what some diagnostics say of comments.
* `Scan.SameComments` — two sources agree on the comments of a tree.

## Main results

* `Scan.SameComments.suppressions_eq` — the same is muted in both.
* `Scan.SameComments.commentRemarks_found_eq` — the same comments are found in both.
* `Scan.SameComments.commentRemarks_diagnostics_eq` — and the same ones are kept.
* `Scan.scan_heeds_comments_only` — the scans of the two sources.
-/

namespace SourceLint

/-- What a diagnostic says, apart from its file and column. -/
structure Remark where
  rule : String
  message : String
  note : Option String
  line : Int
  text : String
deriving DecidableEq, Repr

/-- What a diagnostic says, apart from its file and column. -/
def Diagnostic.remark (diagnostic : Diagnostic) : Remark where
  rule := diagnostic.rule
  message := diagnostic.message
  note := diagnostic.note
  line := diagnostic.line
  text := diagnostic.text

/-- Whether a diagnostic stems from a comment rule. -/
def Diagnostic.isOfComment (diagnostic : Diagnostic) : Bool :=
  (Rule.comments.map Rule.id).contains diagnostic.rule

namespace Scan

/-- What some diagnostics say of comments, in order. -/
def commentRemarks (diagnostics : List Diagnostic) : List Remark :=
  (diagnostics.filter (·.isOfComment)).map (·.remark)

/-! ### The two passes told apart -/

/-- A diagnostic of a trial names the rule that was tried. -/
lemma rule_eq_of_tryRule {faults : RuleFaults} {source : Source} {trial : Node × Rule}
    {diagnostic : Diagnostic} (h : tryRule faults source trial = some diagnostic) :
    diagnostic.rule = trial.2.id := by
  unfold tryRule at h
  split at h
  · simp at h
  · obtain ⟨finding, hfinding, rfl⟩ := Option.map_eq_some_iff.1 h
    exact Rule.rule_eq_of_check hfinding

/-- The diagnostics of the first pass stem from comment rules. -/
lemma isOfComment_of_mem_commentTrials {faults : RuleFaults} {source : Source} {root : Node}
    {diagnostic : Diagnostic}
    (h : diagnostic ∈ (commentTrials source.language root).filterMap (tryRule faults source)) :
    diagnostic.isOfComment = true := by
  obtain ⟨⟨node, rule⟩, htrial, hfound⟩ := List.mem_filterMap.1 h
  obtain ⟨-, hrule⟩ : node ∈ commentNodes source.language root ∧ rule ∈ Rule.comments := by
    simpa [commentTrials, pairs] using htrial
  rw [Diagnostic.isOfComment, rule_eq_of_tryRule hfound, List.contains_iff_mem]
  exact List.mem_map.2 ⟨rule, hrule, rfl⟩

/-- The diagnostics of the second pass do not. -/
lemma isOfComment_of_mem_handlerTrials {faults : RuleFaults} {source : Source} {root : Node}
    {diagnostic : Diagnostic}
    (h : diagnostic ∈ (handlerTrials source.language root).filterMap (tryRule faults source)) :
    diagnostic.isOfComment = false := by
  obtain ⟨⟨node, rule⟩, htrial, hfound⟩ := List.mem_filterMap.1 h
  rw [handlerTrials_eq] at htrial
  obtain ⟨-, hrule⟩ : node ∈ handlerNodes source.language root ∧
      rule ∈ Rule.handlersFor source.language.id := by
    simpa [pairs] using htrial
  obtain ⟨handler, -, rfl⟩ := List.mem_map.1 (List.mem_filter.1 hrule).1
  rw [Diagnostic.isOfComment, rule_eq_of_tryRule hfound, Bool.eq_false_iff]
  intro hcomment
  obtain ⟨other, hother, hid⟩ := List.mem_map.1 (List.contains_iff_mem.1 hcomment)
  obtain ⟨comment, -, rfl⟩ := List.mem_map.1 hother
  exact Rule.id_handler_ne_comment handler comment hid.symm

/-- What is found of comments is what the first pass finds. -/
lemma filter_isOfComment_found (faults : RuleFaults) (source : Source) (root : Node) :
    (found faults source root).filter (·.isOfComment) =
      (commentTrials source.language root).filterMap (tryRule faults source) := by
  rw [found, trials, List.filterMap_append, List.filter_append,
    List.filter_eq_self.2 fun _ h => isOfComment_of_mem_commentTrials h,
    List.filter_eq_nil_iff.2 fun _ h => by simp [isOfComment_of_mem_handlerTrials h],
    List.append_nil]

/-- Whether a diagnostic is muted depends on its remark only. -/
lemma commentRemarks_diagnostics (faults : RuleFaults) (source : Source) (root : Node) :
    commentRemarks (diagnostics faults source root) =
      (commentRemarks (found faults source root)).filter fun remark =>
        !(suppressions source root).isSuppressed remark.rule (some remark.line) := by
  rw [diagnostics_eq_filter, commentRemarks, commentRemarks, List.filter_map,
    List.filter_filter, List.filter_filter]
  congr 1
  apply List.filter_congr
  intro diagnostic _
  exact Bool.and_comm _ _

/-! ### Two sources -/

/-- Two sources of one language have the same text on every named comment of a tree. -/
structure SameComments (root : Node) (s₁ s₂ : Source) : Prop where
  language_eq : s₁.language = s₂.language
  textOf_eq : ∀ node ∈ commentNodes s₁.language root, s₁.textOf node = s₂.textOf node

namespace SameComments

variable {root : Node} {s₁ s₂ : Source}

/-- It is enough that the bytes of the comments are the same. -/
lemma of_slices (hlanguage : s₁.language = s₂.language)
    (hslices : ∀ node ∈ commentNodes s₁.language root,
      Utf8.slice s₁.bytes node.start node.stop = Utf8.slice s₂.bytes node.start node.stop) :
    SameComments root s₁ s₂ := by
  refine ⟨hlanguage, ?_⟩
  intro node hnode
  rw [Source.textOf, Source.textOf, Source.textBetween, Source.textBetween, hslices node hnode]

/-- The same directives are read in both sources. -/
lemma suppressions_eq (h : SameComments root s₁ s₂) :
    suppressions s₁ root = suppressions s₂ root := by
  unfold suppressions
  rw [← h.language_eq]
  congr 1
  apply List.map_congr_left
  intro node hnode
  rw [h.textOf_eq node hnode]
  rfl

/-- A comment rule judges a comment alike in both sources. -/
lemma check_eq (h : SameComments root s₁ s₂) {node : Node}
    (hnode : node ∈ commentNodes s₁.language root) (rule : CommentRule) :
    rule.check s₁ node = rule.check s₂ node := by
  rw [CommentRule.check, CommentRule.check, ← h.language_eq, h.textOf_eq node hnode]

/-- A trial of the first pass ends with the same remark in both sources. -/
lemma remark_tryRule_eq (h : SameComments root s₁ s₂) (faults : RuleFaults) {trial : Node × Rule}
    (htrial : trial ∈ commentTrials s₁.language root) :
    (tryRule faults s₁ trial).map (·.remark) = (tryRule faults s₂ trial).map (·.remark) := by
  obtain ⟨node, rule⟩ := trial
  obtain ⟨hnode, hrule⟩ : node ∈ commentNodes s₁.language root ∧ rule ∈ Rule.comments := by
    simpa [commentTrials, pairs] using htrial
  obtain ⟨rule, -, rfl⟩ := List.mem_map.1 hrule
  unfold tryRule
  split
  · rfl
  · -- the verdict is the same, and so is the first line of the comment
    simp only [Rule.check, h.check_eq hnode rule, Option.map_map]
    congr 1
    funext finding
    simp only [Function.comp, Finding.at, Diagnostic.remark, Source.excerpt,
      h.textOf_eq node hnode]
    rfl

/-- The same comments are found in both sources. -/
lemma commentRemarks_found_eq (h : SameComments root s₁ s₂) (faults : RuleFaults) :
    commentRemarks (found faults s₁ root) = commentRemarks (found faults s₂ root) := by
  unfold commentRemarks
  rw [filter_isOfComment_found, filter_isOfComment_found, List.map_filterMap, List.map_filterMap,
    ← h.language_eq]
  apply List.filterMap_congr
  intro trial htrial
  exact h.remark_tryRule_eq faults htrial

/-- The comments that are found and not muted are the same in both sources. -/
lemma commentRemarks_diagnostics_eq (h : SameComments root s₁ s₂) (faults : RuleFaults) :
    commentRemarks (diagnostics faults s₁ root) = commentRemarks (diagnostics faults s₂ root) := by
  rw [commentRemarks_diagnostics, commentRemarks_diagnostics, h.commentRemarks_found_eq,
    h.suppressions_eq]

/-- A finding is muted in one source if one of the same rule on the same line is in the other. -/
lemma mem_diagnostics_iff (h : SameComments root s₁ s₂) (faults : RuleFaults)
    {d₁ d₂ : Diagnostic} (h₁ : d₁ ∈ found faults s₁ root) (h₂ : d₂ ∈ found faults s₂ root)
    (hrule : d₁.rule = d₂.rule) (hline : d₁.line = d₂.line) :
    d₁ ∈ diagnostics faults s₁ root ↔ d₂ ∈ diagnostics faults s₂ root := by
  rw [diagnostics_eq_filter, diagnostics_eq_filter, List.mem_filter, List.mem_filter,
    h.suppressions_eq, hrule, hline]
  exact ⟨fun h => ⟨h₂, h.2⟩, fun h => ⟨h₁, h.2⟩⟩

end SameComments

/-! ### The scans of the two sources -/

/-- **Only comments are listened to.** For every tree and any two sources of one language with the
same bytes on every named comment of the tree, whatever rules are out of order: the same
suppressions are read, the scans give the same comment findings one by one, columns and file names
apart, and of two findings of one rule on one line either both are muted or none is.

**Proof sketch.** The bytes enter the suppressions and the verdicts of the comment rules through
the texts of the comments only (`SameComments.suppressions_eq`, `SameComments.check_eq`). The
findings of the second pass cannot be taken for comment findings, as no id is shared
(`filter_isOfComment_found`), and muting asks for rule and line only. Whether the tree is scanned
at all is up to the grammar. -/
theorem scan_heeds_comments_only (supply : GrammarSupply) (faults : RuleFaults) (s₁ s₂ : Source)
    (root : Node) (recovered₁ recovered₂ : Bool) (hlanguage : s₁.language = s₂.language)
    (hslices : ∀ node ∈ commentNodes s₁.language root,
      Utf8.slice s₁.bytes node.start node.stop = Utf8.slice s₂.bytes node.start node.stop) :
    suppressions s₁ root = suppressions s₂ root ∧
      (scan supply faults s₁ (.tree root recovered₁)).value.map commentRemarks =
        (scan supply faults s₂ (.tree root recovered₂)).value.map commentRemarks ∧
      ∀ kept₁ kept₂, (scan supply faults s₁ (.tree root recovered₁)).value = .ok kept₁ →
        (scan supply faults s₂ (.tree root recovered₂)).value = .ok kept₂ →
        ∀ d₁ ∈ found faults s₁ root, ∀ d₂ ∈ found faults s₂ root,
          d₁.rule = d₂.rule → d₁.line = d₂.line → (d₁ ∈ kept₁ ↔ d₂ ∈ kept₂) := by
  have h : SameComments root s₁ s₂ := .of_slices hlanguage hslices
  refine ⟨h.suppressions_eq, ?_⟩
  cases hparser : (Loader.fresh.obtainParser supply s₁.language.grammar).answer with
  | some cause =>
    -- neither source is scanned
    obtain ⟨failure, hfails⟩ := exists_value_scan_eq_error hparser
    rw [hfails faults s₁ _ rfl, hfails faults s₂ _ (by rw [hlanguage])]
    exact ⟨rfl, by simp⟩
  | none =>
    rw [value_scan_tree hparser faults root recovered₁,
      value_scan_tree (hlanguage ▸ hparser) faults root recovered₂]
    refine ⟨congrArg Except.ok (h.commentRemarks_diagnostics_eq faults), ?_⟩
    rintro kept₁ kept₂ ⟨⟩ ⟨⟩ d₁ h₁ d₂ h₂ hrule hline
    exact h.mem_diagnostics_iff faults h₁ h₂ hrule hline

/-- A string that reads like a directive, in front of a comment. -/
def quotedDirective : String :=
  "s = \"sloplint: disable-file=all\" # Step 1\n"

/-- The same comment after another string with as many bytes but fewer characters. -/
def quotedLetters : String :=
  "s = \"ééééééééééééé\" # Step 1\n"

/-- The tree of both texts. -/
def quotedTree : Node :=
  let node (kind : String) (start stop column : Nat) (children : List Node) : Node :=
    ⟨kind, true, start, stop, 0, column, none, children⟩
  node "module" 0 42 0
    [node "assignment" 0 32 0 [node "identifier" 0 1 0 [], node "string" 4 32 4 []],
      node "comment" 33 41 33 []]

/-- Two texts with the same comment, one of which quotes a directive in a string. -/
theorem scan_heeds_comments_only_sample :
    ∃ language, Language.ofId? "python" = some language ∧
      (∀ node ∈ commentNodes language quotedTree,
        Utf8.slice (Utf8.encode quotedDirective.toList) node.start node.stop =
          Utf8.slice (Utf8.encode quotedLetters.toList) node.start node.stop) ∧
      (scan {} [] (.ofText "a.py" language quotedDirective)
          (.tree quotedTree false)).value.map commentRemarks =
        (scan {} [] (.ofText "b.py" language quotedLetters)
          (.tree quotedTree false)).value.map commentRemarks ∧
      (diagnostics [] (.ofText "a.py" language quotedDirective) quotedTree).map
          (fun diagnostic => (diagnostic.rule, diagnostic.line, diagnostic.column)) =
        [("step-comment", 1, 34)] ∧
      (diagnostics [] (.ofText "b.py" language quotedLetters) quotedTree).map
          (fun diagnostic => (diagnostic.rule, diagnostic.line, diagnostic.column)) =
        [("step-comment", 1, 21)] := by
  refine ⟨_, rfl, by decide +kernel, ?_, ?_, ?_⟩
  · exact (scan_heeds_comments_only {} [] (.ofText "a.py" _ quotedDirective)
      (.ofText "b.py" _ quotedLetters) quotedTree false false rfl (by decide +kernel)).2.1
  · rw [diagnostics_eq_exhaustive]
    decide +kernel
  · rw [diagnostics_eq_exhaustive]
    decide +kernel

end Scan

end SourceLint
