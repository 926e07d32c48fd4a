import SourceLint.Proofs.Suppression.ReadBack

set_option autoImplicit false

/-!
# Explanations behind a directive

A directive for its line may be followed by a blank and an explanation in plain words. The words are
meant for the reader, but a list of ids may hold blanks and words too. So the list goes on into the
explanation, up to the end of the line or to the first character that no list can hold, such as a
full stop or a bracket, and the words up to there are taken for ids.

For most words this makes no difference, as no rule is called so. But a word may be the id of a rule
that is not in the list, and the word `all` stands for every rule. The directive mutes no more than
it lists exactly when no word that is taken is one of these two.

## Main definitions

* `Directive.explained` — a comment with a directive and an explanation.
* `Directive.idsTaken` — the words of an explanation that are taken for ids.

## Main results

* `Suppressions.isSuppressed_explained_iff` — what such a comment mutes.
* `Suppressions.explanation_mutes_iff` — when it mutes a rule that it does not list.
* `Suppressions.explanation_mutes_every_rule` — an explanation that mutes every rule.
-/

namespace SourceLint

namespace Directive

/-- A comment with a directive for its line and an explanation behind the ids. -/
def explained (ids : List String) (explanation : String) : String :=
  "# sloplint: disable=" ++ Text.joinWith "," ids ++ " " ++ explanation

/-- The words of an explanation that are taken for ids: those before the end of the line and before
the first character that no list of ids can hold. -/
def idsTaken (explanation : String) : List String :=
  idsOf (explanation.toList.takeWhile continuesList)

/-- The list of ids in the comment: the listed ones and the start of the explanation. -/
def explainedList (ids : List String) (explanation : String) : List Char :=
  (Text.joinWith "," ids).toList ++ ' ' :: explanation.toList.takeWhile continuesList

/-- The parts of a directive with an explanation. -/
lemma explained_eq (ids : List String) (explanation : String) :
    explained ids explanation =
      "# " ++ Scope.line.lead ++ Text.joinWith "," ids ++ " " ++ explanation := by
  have hlead : "# sloplint: disable=" = "# " ++ Scope.line.lead := by decide +kernel
  exact congrArg (· ++ Text.joinWith "," ids ++ " " ++ explanation) hlead

/-- What of a directive with an explanation is read as the list of identifiers, and what is left. -/
lemma toList_explained (ids : List String) (explanation : String) :
    (explained ids explanation).toList = "# ".toList ++ (Scope.line.lead.toList ++
      (explainedList ids explanation ++ explanation.toList.dropWhile continuesList)) := by
  have hparts := List.takeWhile_append_dropWhile (p := continuesList) (l := explanation.toList)
  rw [explained_eq]
  simp only [String.toList_append, explainedList, List.append_assoc, List.cons_append, hparts]
  rfl

/-- The list goes on to its end. -/
lemma continuesList_of_mem_explainedList {ids : List String}
    (hids : ∀ id ∈ ids, isKebab id = true) (explanation : String) :
    ∀ c ∈ explainedList ids explanation, continuesList c = true := by
  intro c hc
  rcases List.mem_append.1 hc with hlisted | hmore
  · have hchars := isIdListChar_of_mem_joinWith fun id hid => isIdText_of_isKebab (hids id hid)
    exact continuesList_eq_true_iff.2 (hchars c hlisted)
  · rcases List.mem_cons.1 hmore with rfl | htaken
    · decide
    · exact List.mem_takeWhile_imp htaken

/-- The identifiers of the list are those written and those taken from the explanation. -/
lemma idsOf_explainedList {ids : List String} (hids : ∀ id ∈ ids, isKebab id = true)
    (explanation : String) :
    idsOf (explainedList ids explanation) = ids ++ idsTaken explanation := by
  rw [explainedList, idsOf_append_cons (by decide), idsOf_joinWith hids, idsTaken]

end Directive

namespace Suppressions

open Directive

/-- What a comment with an explanation mutes on its line: the rules that are listed, those that are
named by words of the explanation, and what the rest of the comment mutes on its own. -/
lemma isSuppressed_explained_iff {ids : List String} (hids : ∀ id ∈ ids, isKebab id = true)
    (explanation : String) (number : Int) (rule : String) :
    (ofComments [(number, (explained ids explanation).toList)]).isSuppressed rule (some number)
        = true ↔
      ("all" ∈ ids ++ idsTaken explanation ∨
        Text.lowerString rule ∈ ids ++ idsTaken explanation) ∨
      (ofComments [(number, explanation.toList.dropWhile continuesList)]).isSuppressed rule
        (some number) = true := by
  have hrest : ∀ c ∈ (explanation.toList.dropWhile continuesList).head?,
      continuesList c = false := by
    intro c hc
    have hhead := List.head?_dropWhile_not continuesList explanation.toList
    rw [hc] at hhead
    simpa using hhead
  rw [toList_explained, isSuppressed_lead_iff (by simp [explainedList])
    (continuesList_of_mem_explainedList hids explanation) hrest, idsOf_explainedList hids]
  simp [Scope.place]

/-- **When a directive mutes a rule that it does not list.** A directive for its line lists ids in
the usual form, neither the id of the rule nor the one for all rules among them, and an explanation
follows. The rule is muted on the line exactly when a word of the explanation that is taken for an
id is `all` or the id of the rule, or when the rest of the comment mutes the rule on its own. So if
there is no other opening in the explanation, the directive leaves the rule alone exactly when no
word that is taken is one of these two.

**Proof sketch.** The comment opens with a directive whose list goes on into the explanation
(`isSuppressed_explained_iff`). The part that is not taken holds no opening if the explanation does
not, and then it mutes nothing. -/
theorem explanation_mutes_iff (ids : List String) (hids : ∀ id ∈ ids, isKebab id = true)
    (hall : "all" ∉ ids) (explanation : String) (number : Int) (rule : String)
    (hrule : Text.lowerString rule ∉ ids) :
    ((ofComments [(number, (explained ids explanation).toList)]).isSuppressed rule (some number)
        = true ↔
      ("all" ∈ idsTaken explanation ∨ Text.lowerString rule ∈ idsTaken explanation) ∨
      (ofComments [(number, explanation.toList.dropWhile continuesList)]).isSuppressed rule
        (some number) = true) ∧
    (¬ HoldsOpening explanation.toList →
      ((ofComments [(number, (explained ids explanation).toList)]).isSuppressed rule (some number)
          = false ↔
        "all" ∉ idsTaken explanation ∧ Text.lowerString rule ∉ idsTaken explanation)) := by
  have hmuted := isSuppressed_explained_iff hids explanation number rule
  simp only [List.mem_append, hall, hrule, false_or] at hmuted
  refine ⟨hmuted, ?_⟩
  intro hopening
  have hrest : ¬ HoldsOpening (explanation.toList.dropWhile continuesList) := fun h =>
    hopening (h.of_part (List.dropWhile_suffix continuesList).isInfix)
  rw [ofComments_eq_nil hrest] at hmuted
  rw [Bool.eq_false_iff, ne_eq, hmuted]
  simp [isSuppressed]

/-- An explanation with a bracket, which ends the list of ids. -/
def bracketed : String :=
  "kept for now (all of them)"

/-- The words behind the bracket are not taken, so the rule is left alone. -/
theorem explanation_mutes_iff_bracketed :
    (∀ id ∈ ["step-comment", "section-divider"], isKebab id = true) ∧
      "all" ∉ ["step-comment", "section-divider"] ∧
      Text.lowerString "obvious-comment" ∉ ["step-comment", "section-divider"] ∧
      isSuppressed (ofComments
        [(7, (explained ["step-comment", "section-divider"] bracketed).toList)]) "obvious-comment"
        (some 7) = false := by
  have hopening : ¬ HoldsOpening bracketed.toList := not_holdsOpening (by decide)
  have hmuted := explanation_mutes_iff ["step-comment", "section-divider"] (by decide) (by decide)
    bracketed 7 "obvious-comment" (by decide +kernel)
  exact ⟨by decide, by decide, by decide +kernel, (hmuted.2 hopening).2 (by decide +kernel)⟩

/-- An explanation in plain words, with neither a comma nor another opening, that mutes every
rule. -/
theorem explanation_mutes_every_rule :
    isKebab "step-comment" = true ∧ "all" ∉ ["step-comment"] ∧
      Text.lowerString "obvious-comment" ∉ ["step-comment"] ∧
      ',' ∉ "covers all cases".toList ∧ ¬ HoldsOpening "covers all cases".toList ∧
      (ofComments [(1, (explained ["step-comment"] "covers all cases").toList)]).isSuppressed
        "obvious-comment" (some 1) = true :=
  ⟨by decide, by decide, by decide +kernel, by decide, not_holdsOpening (by decide),
    by decide +kernel⟩

end Suppressions

end SourceLint
