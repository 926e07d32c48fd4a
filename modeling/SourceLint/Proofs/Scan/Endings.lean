import SourceLint.Proofs.Grammar.Memory
import SourceLint.Proofs.Scan.Exhaustive

set_option autoImplicit false

/-!
# How a scan ends

A scan needs a grammar, a parser for it and a tree from the parser, in this order. What goes wrong
first is why the source cannot be parsed, and nothing else is: whatever tree there is, it is scanned
to the end. Building the parser and parsing with it may fail in any way. Such a failure makes the
source unparsable if it is of one of three kinds, special cases included, and a failure of any other
kind is passed on as it is.

That a tree is scanned to the end is a matter of look-ups. An excerpt is the first of the visual
lines of a text, and a lone statement is the first of the statements of a body; each is looked up
where the list might be empty. A careful scan takes such a look-up for what it is, something that
may fail. It never does, and the careful scan gives the diagnostics of the scan.

## Main definitions

* `GrammarSupply.Provides` — a parser can be had for a grammar.
* `Breakdown.IsForeign` — a failure is of none of the three kinds.
* `Breakdown.ReportedAs` — what other failures make of a source, and the words for it.
* `Scan.Treeless` — why there is no tree, and the words for it.
* `Scan.Escapes` — a failure that is passed on.
* `Source.excerpt?`, `HandlerRule.isIdleBody?` — the look-ups of a scan.
* `Scan.diagnostics?` — the careful scan.

## Main results

* `Breakdown.isRefusal_iff` — the kinds of failure that refuse a source.
* `Scan.diagnostics?_eq` — no look-up fails.
* `Scan.answer_parse_of_missing`, `Scan.answer_parse_of_obstacle`, `Scan.answer_parse_of_provides` —
  the stages of a scan.
* `Scan.scan_fails_only_treeless` — when a scan fails, and how.
-/

namespace SourceLint

/-- A parser can be had for a grammar: it can be loaded, and building the parser does not fail. -/
structure GrammarSupply.Provides (supply : GrammarSupply) (grammar : String) : Prop where
  isLoadable : supply.isLoadable grammar = true
  obstacle : supply.obstacle? grammar = none

/-! ### Kinds of failure -/

namespace Breakdown

variable {breakdown : Breakdown} {grammar : String} {failure : ParseFailure}

/-- A failure is no case of any of the kinds that refuse a source. -/
structure IsForeign (breakdown : Breakdown) : Prop where
  value : breakdown.kind.isCaseOf "ValueError" = false
  type : breakdown.kind.isCaseOf "TypeError" = false
  runtime : breakdown.kind.isCaseOf "RuntimeError" = false

/-- **The kinds that refuse a source** are those of values, of types and of runtime failures. -/
lemma isRefusal_iff :
    breakdown.isRefusal = true ↔ breakdown.kind.isCaseOf "ValueError" = true ∨
      breakdown.kind.isCaseOf "TypeError" = true ∨
      breakdown.kind.isCaseOf "RuntimeError" = true := by
  simp [isRefusal, refusalKinds]

/-- A breakdown is foreign exactly when it is not taken for a refusal. -/
lemma isForeign_iff : breakdown.IsForeign ↔ breakdown.isRefusal = false := by
  rw [← Bool.not_eq_true, isRefusal_iff]
  constructor
  · rintro ⟨hvalue, htype, hruntime⟩
    simp [hvalue, htype, hruntime]
  · intro h
    simp only [not_or, Bool.not_eq_true] at h
    exact ⟨h.1, h.2.1, h.2.2⟩

/-- What a failure of a parser for a grammar makes of a source, and the words for it. A failure of
the library's own kind, which is a case of a runtime failure, has its own words. -/
inductive ReportedAs (breakdown : Breakdown) (grammar : String) : ParseFailure → String → Prop
  | own (h : breakdown.kind.isCaseOf "TreeSitterError" = true) :
      ReportedAs breakdown grammar (.reported breakdown.message) breakdown.message
  | refusal (hother : breakdown.kind.isCaseOf "TreeSitterError" = false)
      (h : breakdown.kind.isCaseOf "ValueError" = true ∨
        breakdown.kind.isCaseOf "TypeError" = true ∨
        breakdown.kind.isCaseOf "RuntimeError" = true) :
      ReportedAs breakdown grammar (.refused grammar breakdown.message)
        ("tree-sitter failed to parse " ++ Text.quote grammar ++ " source: " ++ breakdown.message)

/-- A failure is reported exactly as it comes out of parsing. -/
lemma ofBreakdown_eq_failed_iff :
    ParseOutcome.ofBreakdown grammar breakdown = .failed failure ↔
      breakdown.ReportedAs grammar failure failure.message := by
  constructor
  · intro h
    cases hown : breakdown.isOwn with
    | true =>
      rw [ParseOutcome.ofBreakdown_of_isOwn hown] at h
      cases h
      exact .own hown
    | false =>
      cases hrefusal : breakdown.isRefusal with
      | true =>
        rw [ParseOutcome.ofBreakdown_of_isRefusal hown hrefusal] at h
        cases h
        exact .refusal hown (isRefusal_iff.1 hrefusal)
      | false =>
        rw [ParseOutcome.ofBreakdown_of_foreign hrefusal] at h
        cases h
  · intro h
    generalize failure.message = words at h
    cases h with
    | own hown => exact ParseOutcome.ofBreakdown_of_isOwn hown
    | refusal hother hkind =>
      exact ParseOutcome.ofBreakdown_of_isRefusal hother (isRefusal_iff.2 hkind)

/-- Foreign failures are reported as nothing, and all others as something. -/
lemma not_isForeign_iff (grammar : String) :
    ¬ breakdown.IsForeign ↔ ∃ failure words, breakdown.ReportedAs grammar failure words := by
  rw [isForeign_iff, Bool.not_eq_false]
  constructor
  · intro hrefusal
    cases hown : breakdown.isOwn with
    | true => exact ⟨_, _, .own hown⟩
    | false => exact ⟨_, _, .refusal hown (isRefusal_iff.1 hrefusal)⟩
  · rintro ⟨failure, words, hown | ⟨-, hkind⟩⟩
    · exact isRefusal_of_isOwn hown
    · exact isRefusal_iff.2 hkind

end Breakdown

namespace Scan

/-- Why there is no tree under a grammar, and the words for it: the first thing that goes wrong. -/
inductive Treeless (supply : GrammarSupply) (grammar : String) (reply : ParserReply) :
    ParseFailure → String → Prop
  /-- The grammar cannot be loaded. -/
  | missing (hload : supply.isLoadable grammar = false) :
      Treeless supply grammar reply (.grammarMissing grammar)
        ("tree-sitter grammar not available: " ++ Text.quote grammar)
  /-- Building the parser fails. -/
  | unbuildable {breakdown : Breakdown} {failure : ParseFailure} {words : String}
      (hload : supply.isLoadable grammar = true)
      (hbuild : supply.obstacle? grammar = some breakdown)
      (hreported : breakdown.ReportedAs grammar failure words) :
      Treeless supply grammar reply failure words
  /-- Parsing fails. -/
  | unparsed {breakdown : Breakdown} {failure : ParseFailure} {words : String}
      (hparser : supply.Provides grammar) (hreply : reply = .brokeDown breakdown)
      (hreported : breakdown.ReportedAs grammar failure words) :
      Treeless supply grammar reply failure words
  /-- The parser gives no tree. -/
  | noTree (hparser : supply.Provides grammar) (hreply : reply = .nothing) :
      Treeless supply grammar reply (.noTree grammar)
        ("tree-sitter returned no tree for " ++ Text.quote grammar ++ " source")

/-- A failure is passed on: building the parser or parsing fails, and the failure is of another
kind than those that refuse a source. -/
inductive Escapes (supply : GrammarSupply) (grammar : String) (reply : ParserReply)
    (breakdown : Breakdown) : Prop
  | building (hload : supply.isLoadable grammar = true)
      (hbuild : supply.obstacle? grammar = some breakdown) (hforeign : breakdown.IsForeign)
  | parsing (hparser : supply.Provides grammar) (hreply : reply = .brokeDown breakdown)
      (hforeign : breakdown.IsForeign)

end Scan

/-! ### Look-ups that could fail -/

/-- The first visual line of a node by look-up; an empty text has no lines, and an empty excerpt. -/
def Source.excerpt? (source : Source) (node : Node) : Option (List Char) :=
  if (source.textOf node).isEmpty then some [] else (Text.visualLines (source.textOf node))[0]?

/-- Every text has a first line, unless it is empty. -/
lemma Source.excerpt?_eq (source : Source) (node : Node) :
    source.excerpt? node = some (source.excerpt node) := by
  rw [excerpt?, excerpt]
  split
  · rename_i hempty
    rw [List.isEmpty_iff.1 hempty]
    rfl
  · rename_i hne
    rw [← List.head?_eq_getElem?, Text.head?_visualLines (by simpa using hne)]

/-- The diagnostic of a finding on a node, with its text by look-up. -/
def Finding.at? (finding : Finding) (source : Source) (node : Node) : Option Diagnostic :=
  (source.excerpt? node).map fun line => { finding.at source node with text := String.ofList line }

/-- Placing a finding never fails. -/
lemma Finding.at?_eq (finding : Finding) (source : Source) (node : Node) :
    finding.at? source node = some (finding.at source node) := by
  rw [Finding.at?, Source.excerpt?_eq]
  rfl

namespace HandlerRule

/-- Whether the only content of a body is a statement that does nothing; the statement is looked
up. -/
def isIdleBody? (family : HandlerFamily) (body : Node) : Option Bool :=
  if body.namedChildren.length = 1 then
    body.namedChildren[0]?.map fun statement => family.idleKinds.contains statement.kind
  else some false

/-- A body with one statement has a first one. -/
lemma isIdleBody?_eq (family : HandlerFamily) (body : Node) :
    isIdleBody? family body = some (isIdleBody family body) := by
  rw [isIdleBody?, isIdleBody]
  match body.namedChildren with
  | [] => rfl
  | [statement] => rfl
  | _ :: _ :: _ => simp

/-- The verdict of the rule on idle handlers, with its look-up. -/
def checkSilent? (source : Source) (node : Node) : Option (Option Finding) :=
  match familyOf? source node with
  | none => some none
  | some family =>
    match family.body? node with
    | none => some none
    | some body =>
      (isIdleBody? family body).map fun idle =>
        if idle then some (finding .silent family) else none

/-- The rule on silent handlers never fails. -/
lemma checkSilent?_eq (source : Source) (node : Node) :
    checkSilent? source node = some (check .silent source node) := by
  unfold checkSilent? check
  cases familyOf? source node with
  | none => rfl
  | some family =>
    cases hbody : family.body? node with
    | none => simp [checkHandler, hbody]
    | some body => simp [checkHandler, hbody, isIdleBody?_eq]

end HandlerRule

/-- The verdict of a rule on a node, with its look-ups. -/
def Rule.check? (rule : Rule) (source : Source) (node : Node) : Option (Option Finding) :=
  match rule with
  | .handler .silent => HandlerRule.checkSilent? source node
  | rule => some (rule.check source node)

/-- No rule fails. -/
lemma Rule.check?_eq (rule : Rule) (source : Source) (node : Node) :
    rule.check? source node = some (rule.check source node) := by
  unfold Rule.check?
  split
  · exact HandlerRule.checkSilent?_eq source node
  · rfl

namespace Scan

/-- The diagnostic of a trial, with the look-ups of its rule and of its excerpt. -/
def tryRule? (source : Source) (trial : Node × Rule) : Option (Option Diagnostic) := do
  match ← trial.2.check? source trial.1 with
  | none => some none
  | some finding => (finding.at? source trial.1).map some

/-- The diagnostics of a careful scan: nothing as soon as a look-up fails. -/
def diagnostics? (source : Source) (root : Node) : Option (List Diagnostic) := do
  let verdicts ← (trials source.language root).mapM (tryRule? source)
  return (verdicts.filterMap id).filter fun diagnostic =>
    !(suppressions source root).isSuppressed diagnostic.rule (some diagnostic.line)

/-- Trying a rule on a node never fails. -/
lemma tryRule?_eq (source : Source) (trial : Node × Rule) :
    tryRule? source trial = some (tryRule [] source trial) := by
  have hsound : tryRule [] source trial =
      (trial.2.check source trial.1).map fun finding => finding.at source trial.1 := rfl
  rw [hsound, tryRule?, Rule.check?_eq]
  cases trial.2.check source trial.1 with
  | none => rfl
  | some finding => simp [Finding.at?_eq]

/-- **No look-up fails**, whatever the tree: the careful scan gives the diagnostics of the scan. -/
lemma diagnostics?_eq (source : Source) (root : Node) :
    diagnostics? source root = some (diagnostics [] source root) := by
  have htry : tryRule? source = fun trial => some (tryRule [] source trial) :=
    funext (tryRule?_eq source)
  have hall : (trials source.language root).mapM (tryRule? source) =
      some ((trials source.language root).map (tryRule [] source)) := by
    rw [htry]
    exact List.mapM_pure
  rw [diagnostics?, hall, diagnostics_eq_filter, found]
  simp [List.filterMap_map]

/-! ### The stages of a scan -/

variable {supply : GrammarSupply} {faults : RuleFaults} {source : Source} {grammar : String}
  {reply : ParserReply}

/-- Nothing is remembered at first, so a grammar is there if it can be loaded. -/
lemma isThere_fresh_iff :
    Loader.fresh.IsThere supply grammar ↔ supply.isLoadable grammar = true := by
  simp [Loader.IsThere, Loader.fresh]

/-- Without the grammar, it is reported as missing. -/
lemma answer_parse_of_missing (hload : supply.isLoadable grammar = false) (reply : ParserReply) :
    (Loader.fresh.parse supply grammar reply).answer = .failed (.grammarMissing grammar) := by
  have hthere : ¬ Loader.fresh.IsThere supply grammar := by simp [isThere_fresh_iff, hload]
  rw [Loader.parse_of_missing List.not_mem_nil hthere]

/-- Without a parser, the failure of building it decides. -/
lemma answer_parse_of_obstacle {breakdown : Breakdown} (hload : supply.isLoadable grammar = true)
    (hbuild : supply.obstacle? grammar = some breakdown) (reply : ParserReply) :
    (Loader.fresh.parse supply grammar reply).answer = .ofBreakdown grammar breakdown := by
  rw [Loader.parse_of_obstacle List.not_mem_nil (isThere_fresh_iff.2 hload) hbuild]

/-- With a parser, its reply decides. -/
lemma answer_parse_of_provides (h : supply.Provides grammar) (reply : ParserReply) :
    (Loader.fresh.parse supply grammar reply).answer = (Loader.judge grammar reply).value := by
  rw [Loader.parse_of_buildable List.not_mem_nil (isThere_fresh_iff.2 h.isLoadable) h.obstacle]

/-- There is no fourth stage. -/
lemma stage_cases (supply : GrammarSupply) (grammar : String) :
    supply.isLoadable grammar = false ∨
      supply.isLoadable grammar = true ∧
        (∃ breakdown, supply.obstacle? grammar = some breakdown) ∨
      supply.Provides grammar := by
  cases hload : supply.isLoadable grammar with
  | false => exact .inl rfl
  | true =>
    cases hbuild : supply.obstacle? grammar with
    | some breakdown => exact .inr (.inl ⟨rfl, breakdown, rfl⟩)
    | none => exact .inr (.inr ⟨hload, hbuild⟩)

/-- Parsing fails exactly when there is no tree, for the first reason. -/
lemma answer_parse_eq_failed_iff {failure : ParseFailure} :
    (Loader.fresh.parse supply grammar reply).answer = .failed failure ↔
      Treeless supply grammar reply failure failure.message := by
  constructor
  · intro h
    rcases stage_cases supply grammar with hload | ⟨hload, breakdown, hbuild⟩ | hparser
    · rw [answer_parse_of_missing hload] at h
      cases h
      exact .missing hload
    · rw [answer_parse_of_obstacle hload hbuild] at h
      exact .unbuildable hload hbuild (Breakdown.ofBreakdown_eq_failed_iff.1 h)
    · rw [answer_parse_of_provides hparser] at h
      cases reply with
      | tree root recovered => cases recovered <;> cases h
      | nothing =>
        cases h
        exact .noTree hparser rfl
      | brokeDown breakdown =>
        exact .unparsed hparser rfl (Breakdown.ofBreakdown_eq_failed_iff.1 h)
  · intro h
    generalize hwords : failure.message = words at h
    cases h with
    | missing hload => exact answer_parse_of_missing hload reply
    | unbuildable hload hbuild hreported =>
      rw [answer_parse_of_obstacle hload hbuild]
      exact Breakdown.ofBreakdown_eq_failed_iff.2 (hwords ▸ hreported)
    | unparsed hparser hreply hreported =>
      rw [answer_parse_of_provides hparser, hreply]
      exact Breakdown.ofBreakdown_eq_failed_iff.2 (hwords ▸ hreported)
    | noTree hparser hreply =>
      rw [answer_parse_of_provides hparser, hreply]
      rfl

/-- Parsing passes on exactly the failures that escape. -/
lemma answer_parse_eq_brokeDown_iff {breakdown : Breakdown} :
    (Loader.fresh.parse supply grammar reply).answer = .brokeDown breakdown ↔
      Escapes supply grammar reply breakdown := by
  constructor
  · intro h
    rcases stage_cases supply grammar with hload | ⟨hload, other, hbuild⟩ | hparser
    · rw [answer_parse_of_missing hload] at h
      cases h
    · rw [answer_parse_of_obstacle hload hbuild] at h
      obtain ⟨hforeign, rfl⟩ := ParseOutcome.ofBreakdown_eq_brokeDown_iff.1 h
      exact .building hload hbuild (Breakdown.isForeign_iff.2 hforeign)
    · rw [answer_parse_of_provides hparser] at h
      cases reply with
      | tree root recovered => cases recovered <;> cases h
      | nothing => cases h
      | brokeDown other =>
        obtain ⟨hforeign, rfl⟩ := ParseOutcome.ofBreakdown_eq_brokeDown_iff.1 h
        exact .parsing hparser rfl (Breakdown.isForeign_iff.2 hforeign)
  · rintro (⟨hload, hbuild, hforeign⟩ | ⟨hparser, rfl, hforeign⟩)
    · rw [answer_parse_of_obstacle hload hbuild]
      exact ParseOutcome.ofBreakdown_of_foreign (Breakdown.isForeign_iff.1 hforeign)
    · rw [answer_parse_of_provides hparser]
      exact ParseOutcome.ofBreakdown_of_foreign (Breakdown.isForeign_iff.1 hforeign)

/-- A scan finds the source unparsable exactly when parsing fails. -/
lemma value_scan_eq_unparsable_iff {failure : ParseFailure} :
    (scan supply faults source reply).value = .error (.unparsable failure) ↔
      (Loader.fresh.parse supply source.language.grammar reply).answer = .failed failure := by
  cases houtcome : (Loader.fresh.parse supply source.language.grammar reply).answer <;>
    simp [scan, houtcome]

/-- A scan passes on what parsing passes on. -/
lemma value_scan_eq_brokeDown_iff {breakdown : Breakdown} :
    (scan supply faults source reply).value = .error (.brokeDown breakdown) ↔
      (Loader.fresh.parse supply source.language.grammar reply).answer = .brokeDown breakdown := by
  cases houtcome : (Loader.fresh.parse supply source.language.grammar reply).answer <;>
    simp [scan, houtcome]

/-- Parsing reports at most how the tree came about. -/
lemma eq_recoveredTree_of_mem_events_parse {event : Event}
    (h : event ∈ (Loader.fresh.parse supply grammar reply).events) :
    event = .recoveredTree grammar := by
  have hnew : grammar ∉ Loader.fresh.parsers := List.not_mem_nil
  rcases stage_cases supply grammar with hload | ⟨hload, breakdown, hbuild⟩ | hparser
  · have hthere : ¬ Loader.fresh.IsThere supply grammar := by simp [isThere_fresh_iff, hload]
    simp [Loader.parse_of_missing hnew hthere] at h
  · simp [Loader.parse_of_obstacle hnew (isThere_fresh_iff.2 hload) hbuild] at h
  · rw [Loader.parse_of_buildable hnew (isThere_fresh_iff.2 hparser.isLoadable)
      hparser.obstacle] at h
    cases reply with
    | tree root recovered =>
      cases recovered with
      | false => cases h
      | true => exact List.mem_singleton.1 h
    | nothing => cases h
    | brokeDown breakdown => cases h

/-- When all rules are in order, a scan reports nothing else. -/
lemma eq_recoveredTree_of_mem_events {event : Event}
    (h : event ∈ (scan supply [] source reply).events) :
    event = .recoveredTree source.language.grammar := by
  have hsound : ∀ root, faultEvents [] source root = [] :=
    fun root => List.filterMap_eq_nil_iff.2 fun _ _ => rfl
  apply @eq_recoveredTree_of_mem_events_parse supply _ reply
  unfold scan at h
  cases houtcome : (Loader.fresh.parse supply source.language.grammar reply).answer <;>
    simpa only [houtcome, hsound, List.append_nil] using h

/-- **A scan fails only without a tree.** It finds the source unparsable exactly when the grammar
cannot be loaded, or building a parser or parsing fails with a failure of values, of types or of the
runtime, or the parser gives no tree; the reason is the first of these, in its own words. Special
cases of these kinds count, and among them the library's own kind of failure is reported as it is
worded. A failure of any other kind, of building the parser or of parsing, is passed on unchanged,
and nothing else is passed on. Every tree whatsoever is scanned to the end: no look-up of a rule or
for an excerpt fails, and no rule is reported to have failed.

**Proof sketch.** The stages of a scan are gone through in order, and each of the last two comes to
what the kind of its failure asks for. A text that is not empty has a first line, and a list of one
statement has a first statement, so the careful scan never fails. -/
theorem scan_fails_only_treeless (supply : GrammarSupply) (source : Source) (reply : ParserReply) :
    let outcome := scan supply [] source reply
    (∀ failure, outcome.value = .error (.unparsable failure) ↔
      Treeless supply source.language.grammar reply failure failure.message) ∧
    (∀ breakdown, outcome.value = .error (.brokeDown breakdown) ↔
      Escapes supply source.language.grammar reply breakdown) ∧
    (∀ breakdown : Breakdown, ¬ breakdown.IsForeign ↔
      ∃ failure words, breakdown.ReportedAs source.language.grammar failure words) ∧
    (∀ root recovered, supply.Provides source.language.grammar → reply = .tree root recovered →
      ∃ diagnostics, diagnostics? source root = some diagnostics ∧
        outcome.value = .ok diagnostics) ∧
    (∀ rule kind file reason, .ruleFailed rule kind file reason ∉ outcome.events) := by
  refine ⟨fun failure => value_scan_eq_unparsable_iff.trans answer_parse_eq_failed_iff,
    fun breakdown => value_scan_eq_brokeDown_iff.trans answer_parse_eq_brokeDown_iff,
    fun breakdown => breakdown.not_isForeign_iff _, ?_, ?_⟩
  · rintro root recovered hparser rfl
    exact ⟨diagnostics [] source root, diagnostics?_eq source root, value_scan_tree
      (answer_obtainParser_fresh hparser.isLoadable hparser.obstacle) [] root recovered⟩
  · intro rule kind file reason hmem
    cases eq_recoveredTree_of_mem_events hmem

/-- A source whose second character takes up two bytes. -/
def accentedSource (language : Language) : Source :=
  .ofText "a.py" language "#é"

/-- A tree with a comment that starts inside a character and ends behind the source, and a handler
without a body whose range is reversed. -/
def crookedTree : Node :=
  ⟨"module", true, 9, 3, 0, 0, none,
    [⟨"comment", true, 2, 900, 0, 0, none, []⟩, ⟨"except_clause", true, 70, 1, 7, 3, none, []⟩]⟩

/-- A grammar that is missing, one for which building a parser fails, and one for which it breaks
down. -/
def poorSupply : GrammarSupply where
  missing := ["ruby"]
  unbuildable := [("go", ⟨.ofName "NotImplementedError", "too old"⟩),
    ("python", ⟨.ofName "OSError", "no disk"⟩)]

/-- A crooked tree is scanned. Without a tree, a decoding error is taken for a refusal, an error of
the parser library for its own report, and one of another kind passes through, as does one that
comes up while the parser is built; a grammar that is missing is named. -/
theorem scan_fails_only_treeless_crooked :
    ∃ language, Language.ofId? "python" = some language ∧
      ({} : GrammarSupply).Provides language.grammar ∧
      (∃ diagnostics, diagnostics? (accentedSource language) crookedTree = some diagnostics ∧
        (scan {} [] (accentedSource language) (.tree crookedTree true)).value = .ok diagnostics) ∧
      (scan {} [] (accentedSource language)
          (.brokeDown ⟨.ofName "UnicodeDecodeError", "no text"⟩)).value =
        .error (.unparsable (.refused language.grammar "no text")) ∧
      (scan {} [] (accentedSource language)
          (.brokeDown ⟨.ofName "TreeSitterError", "no parser"⟩)).value =
        .error (.unparsable (.reported "no parser")) ∧
      (scan {} [] (accentedSource language)
          (.brokeDown ⟨.ofName "IndexError", "no node"⟩)).value =
        .error (.brokeDown ⟨.ofName "IndexError", "no node"⟩) ∧
      (scan poorSupply [] (accentedSource language) .nothing).value =
        .error (.brokeDown ⟨.ofName "OSError", "no disk"⟩) ∧
      ∃ other, Language.ofId? "ruby" = some other ∧
        (scan poorSupply [] (accentedSource other) .nothing).value =
          .error (.unparsable (.grammarMissing other.grammar)) := by
  obtain ⟨language, hlanguage, hgrammar⟩ :
      ∃ language, Language.ofId? "python" = some language ∧ language.grammar = "python" :=
    ⟨_, rfl, rfl⟩
  obtain ⟨other, hother, hmissing⟩ : ∃ other, Language.ofId? "ruby" = some other ∧
      poorSupply.isLoadable other.grammar = false := ⟨_, rfl, by decide⟩
  have hparser : ({} : GrammarSupply).Provides language.grammar := by
    rw [hgrammar]
    exact ⟨by decide, by decide⟩
  obtain ⟨hload, hbuild⟩ : poorSupply.isLoadable language.grammar = true ∧
      poorSupply.obstacle? language.grammar = some ⟨.ofName "OSError", "no disk"⟩ := by
    rw [hgrammar]
    exact ⟨by decide, by decide⟩
  have hends := fun reply => scan_fails_only_treeless {} (accentedSource language) reply
  obtain ⟨-, -, -, htree, -⟩ := hends (.tree crookedTree true)
  obtain ⟨hrefused, -⟩ := hends (.brokeDown ⟨.ofName "UnicodeDecodeError", "no text"⟩)
  obtain ⟨hreported, -⟩ := hends (.brokeDown ⟨.ofName "TreeSitterError", "no parser"⟩)
  obtain ⟨-, hpassed, -⟩ := hends (.brokeDown ⟨.ofName "IndexError", "no node"⟩)
  obtain ⟨-, hunbuilt, -⟩ :=
    scan_fails_only_treeless poorSupply (accentedSource language) .nothing
  obtain ⟨hfirst, -⟩ := scan_fails_only_treeless poorSupply (accentedSource other) .nothing
  refine ⟨language, hlanguage, hparser, htree _ _ hparser rfl, ?_, ?_, ?_, ?_, other, hother, ?_⟩
  · exact (hrefused _).2 (.unparsed hparser rfl (.refusal (by decide) (by decide)))
  · exact (hreported _).2 (.unparsed hparser rfl (.own (by decide)))
  · exact (hpassed _).2 (.parsing hparser rfl ⟨by decide, by decide, by decide⟩)
  · exact (hunbuilt _).2 (.building hload hbuild ⟨by decide, by decide, by decide⟩)
  · exact (hfirst _).2 (.missing hmissing)

end Scan

end SourceLint
