import Mathlib.Tactic.Lemma
import SourceLint.Rule.Catalogue

set_option autoImplicit false

/-!
# What a rule can speak of

Three tables say independently of each other what the rules are about: the comment kinds of a
language, the handler kinds of a family, and the languages that a handler rule applies to. The last
one is derived from the families, and for the rule on statements that do nothing only from those
that have such statements.

The tables agree: a comment rule has a finding on comment nodes only, and a handler rule only on
handler nodes of a language that it applies to. This holds of every language that can be described,
not only of the supported ones.

## Main results

* `CommentRule.isComment_of_check` — a comment rule finds comments only.
* `HandlerRule.mem_handlerKinds_of_check` — a handler rule finds handlers only.
* `HandlerRule.appliesTo_of_check` — a handler rule finds something in its languages only.
* `Rule.rule_eq_of_check` — a finding names the rule that it stems from.
* `Rule.id_handler_ne_comment` — no handler rule has the id of a comment rule.
-/

namespace SourceLint

variable {source : Source} {node : Node} {finding : Finding}

/-! ### Comment rules -/

/-- A comment rule has a finding on the comment nodes whose text it finds. -/
lemma CommentRule.isSome_check (rule : CommentRule) (source : Source) (node : Node) :
    (rule.check source node).isSome =
      (source.language.isComment node.kind && rule.finds source.language (source.textOf node)) := by
  unfold CommentRule.check
  split
  · rename_i hcond
    rw [hcond]
    rfl
  · rename_i hcond
    rw [Bool.eq_false_iff.2 hcond]
    rfl

/-- A comment rule has a finding on comment nodes only. -/
lemma CommentRule.isComment_of_check {rule : CommentRule}
    (h : rule.check source node = some finding) : source.language.isComment node.kind = true := by
  have hsome : (rule.check source node).isSome = true := by rw [h]; rfl
  rw [isSome_check, Bool.and_eq_true] at hsome
  exact hsome.1

/-! ### Handler rules -/

/-- The family of a language has that language among its own. -/
lemma HandlerFamily.mem_languages_of_ofLanguage? {language : String} {family : HandlerFamily}
    (h : ofLanguage? language = some family) : family ∈ all ∧ language ∈ family.languages := by
  refine ⟨List.mem_of_find?_eq_some h, ?_⟩
  simpa using List.find?_some h

namespace HandlerRule

/-- A language of a family has handlers. -/
lemma mem_handlerLanguages {language : String} {family : HandlerFamily}
    (h : HandlerFamily.ofLanguage? language = some family) : language ∈ handlerLanguages := by
  obtain ⟨hfamily, hlanguage⟩ := HandlerFamily.mem_languages_of_ofLanguage? h
  exact Text.mem_sortStrings.2 (List.mem_flatMap.2 ⟨family, hfamily, hlanguage⟩)

/-- A language of a family with statements that do nothing is listed as such. -/
lemma mem_idleLanguages {language : String} {family : HandlerFamily}
    (h : HandlerFamily.ofLanguage? language = some family) (hidle : family.idleKinds ≠ []) :
    language ∈ idleLanguages := by
  obtain ⟨hfamily, hlanguage⟩ := HandlerFamily.mem_languages_of_ofLanguage? h
  refine Text.mem_sortStrings.2 (List.mem_flatMap.2 ⟨family, ?_, hlanguage⟩)
  exact List.mem_filter.2 ⟨hfamily, by simpa using hidle⟩

/-- A rule that has a finding on a node took it for a handler of the language's family. -/
lemma exists_family_of_check {rule : HandlerRule} (h : rule.check source node = some finding) :
    ∃ family, HandlerFamily.ofLanguage? source.language.id = some family ∧
      node.kind ∈ family.handlerKinds ∧
      rule.checkHandler family source node = some finding := by
  simp only [check, Option.bind_eq_bind, Option.bind_eq_some_iff, familyOf?,
    Option.filter_eq_some_iff, List.contains_iff_mem] at h
  obtain ⟨family, ⟨hlanguage, hkind⟩, hfinding⟩ := h
  exact ⟨family, hlanguage, hkind, hfinding⟩

/-- A statement that does nothing is found only in families that have such statements. -/
lemma idleKinds_ne_nil_of_checkHandler {family : HandlerFamily}
    (h : checkHandler .silent family source node = some finding) : family.idleKinds ≠ [] := by
  intro hnil
  simp only [checkHandler] at h
  split at h
  · rename_i hidle
    obtain ⟨body, -, hbody⟩ := (Option.any_eq_true _ _).1 hidle
    unfold isIdleBody at hbody
    split at hbody <;> simp [hnil] at hbody
  · simp at h

/-- A handler rule has a finding on nodes of the language's handler kinds only. -/
lemma mem_handlerKinds_of_check {rule : HandlerRule} (h : rule.check source node = some finding) :
    node.kind ∈ source.language.handlerKinds := by
  obtain ⟨family, hlanguage, hkind, -⟩ := exists_family_of_check h
  simpa [Language.handlerKinds, hlanguage] using hkind

/-- A handler rule has a finding in the languages that it applies to only. -/
lemma appliesTo_of_check {rule : HandlerRule} (h : rule.check source node = some finding) :
    rule.info.appliesTo source.language.id = true := by
  obtain ⟨family, hlanguage, -, hfinding⟩ := exists_family_of_check h
  have hhandlers := mem_handlerLanguages hlanguage
  cases rule with
  | empty => simpa [info, RuleInfo.appliesTo] using hhandlers
  | silent =>
    have hidle := mem_idleLanguages hlanguage (idleKinds_ne_nil_of_checkHandler hfinding)
    simpa [info, RuleInfo.appliesTo] using hidle
  | output => simpa [info, RuleInfo.appliesTo] using hhandlers

/-- A finding names its rule, whichever words it uses. -/
lemma rule_eq_of_check {rule : HandlerRule} (h : rule.check source node = some finding) :
    finding.rule = rule.info.id := by
  obtain ⟨family, -, -, hfinding⟩ := exists_family_of_check h
  cases rule with
  | empty =>
    simp only [checkHandler] at hfinding
    split at hfinding
    · cases hfinding
      rfl
    · split at hfinding <;> split at hfinding <;> cases hfinding <;> rfl
  | silent =>
    simp only [checkHandler] at hfinding
    split at hfinding <;> cases hfinding
    rfl
  | output =>
    simp only [checkHandler] at hfinding
    split at hfinding <;> cases hfinding
    rfl

end HandlerRule

/-! ### Rules of either category -/

namespace Rule

/-- A finding names the rule that it stems from. -/
lemma rule_eq_of_check {rule : Rule} (h : rule.check source node = some finding) :
    finding.rule = rule.id := by
  cases rule with
  | comment rule =>
    simp only [check, CommentRule.check] at h
    split at h <;> cases h
    rfl
  | handler rule => exact HandlerRule.rule_eq_of_check h

/-- No handler rule has the id of a comment rule. -/
lemma id_handler_ne_comment (rule : HandlerRule) (other : CommentRule) :
    (handler rule).id ≠ (comment other).id := by
  cases rule <;> cases other <;> decide

end Rule

end SourceLint
