import SourceLint.Proofs.Directive.Spelled
import SourceLint.Proofs.Suppression.Scope

set_option autoImplicit false

/-!
# What a directive mutes that opens a comment

A comment opens with a directive in the usual form: the lead of a scope, and behind it a list of
ids. The list goes on as long as the line and its characters allow. The comment mutes what this one
directive mutes, and what the rest of the comment mutes on its own. Keywords that continue one
another, or stand among the ids, are no obstacle: the keyword of the directive ends at its equals
sign, and behind that only the colon of another opening could start a directive.

So a directive is read back as it was written. If the comment ends behind it, perhaps after a blank
and the end of a block comment, then it mutes exactly the rules that the directive names, in the
place of its scope.

## Main definitions

* `Directive.continuesList` — a character with which a list of ids goes on.
* `Directive.Spelled.comment` — a comment that consists of a directive.

## Main results

* `Suppressions.ofComments_lead` — what a comment mutes that opens with a directive.
* `Suppressions.ofComments_eq_nil` — a comment without an opening mutes nothing.
* `Suppressions.isSuppressed_spelled_iff` — a directive is read back as it was written.
-/

namespace SourceLint

/-! ### A directive and the rest of its comment -/

namespace Directive

/-- A character with which a list of ids goes on: one that it can hold, on the same line. -/
def continuesList (c : Char) : Bool :=
  isIdListChar c && c != '\n'

/-- Which characters continue a list of identifiers. -/
lemma continuesList_eq_true_iff {c : Char} :
    continuesList c = true ↔ isIdListChar c = true ∧ c ≠ '\n' := by
  simp [continuesList]

/-- A directive and its list stay on their line. -/
lemma isNewline_eq_false_of_mem_front (scope : Scope) {list : List Char}
    (hids : ∀ c ∈ list, continuesList c = true) :
    ∀ c ∈ "# ".toList ++ (scope.lead.toList ++ list), (c == '\n') = false := by
  have hlead : ("# ".toList ++ scope.lead.toList).all (· != '\n') = true := by
    cases scope <;> decide
  intro c hc
  rw [← List.append_assoc, List.mem_append] at hc
  rcases hc with hfront | hlist
  · simpa using List.all_eq_true.1 hlead c hfront
  · simpa using (continuesList_eq_true_iff.1 (hids c hlist)).2

/-- Where a list of ids does not go on, the first line starts with nothing that a list can hold. -/
lemma isIdListChar_head?_firstLine {rest : List Char}
    (hrest : ∀ c ∈ rest.head?, continuesList c = false) :
    ∀ c ∈ (rest.takeWhile fun c => !(c == '\n')).head?, isIdListChar c = false := by
  intro c hc
  cases rest with
  | nil => simp at hc
  | cons d rest =>
    by_cases hnewline : d = '\n'
    · simp [hnewline] at hc
    · obtain rfl : d = c := by simpa [hnewline] using hc
      simpa [continuesList, hnewline] using hrest d rfl

end Directive

namespace Suppressions

open Directive

/-- A comment without an opening mutes nothing. -/
lemma ofComments_eq_nil {number : Int} {cs : List Char} (h : ¬ HoldsOpening cs) :
    ofComments [(number, cs)] = [] := by
  rw [List.eq_nil_iff_forall_not_mem]
  intro suppression hmem
  obtain ⟨comment, hcomment, k, line, hline, directive, hdirective, -⟩ := mem_ofComments_iff.1 hmem
  obtain rfl : comment = (number, cs) := List.mem_singleton.1 hcomment
  have hpart : line <:+: cs := Text.isInfix_of_mem_splitWhere (List.mem_of_getElem? hline)
  have hnone := findAll_eq_nil_of_not_holdsOpening fun hopening => h (hopening.of_part hpart)
  rw [hnone] at hdirective
  exact List.not_mem_nil hdirective

/-- **What a comment mutes that opens with a directive**: what the directive mutes, and what the
rest of the comment mutes on its own.

**Proof sketch.** The rest is split into lines at the same places as the comment, except that the
first line of the comment has the directive in front of the first line of the rest. There the search
reads the directive and goes on behind its list. -/
lemma ofComments_lead (number : Int) (scope : Scope) {list rest : List Char} (hlist : list ≠ [])
    (hids : ∀ c ∈ list, continuesList c = true)
    (hrest : ∀ c ∈ rest.head?, continuesList c = false) :
    ofComments [(number, "# ".toList ++ (scope.lead.toList ++ (list ++ rest)))] =
      Directive.suppressions ⟨scope.keyword.toList, idsOf list⟩ number ++
        ofComments [(number, rest)] := by
  obtain ⟨others, hothers⟩ := Text.exists_splitWhere_eq_cons (· == '\n') rest
  have hlines := Text.splitWhere_append_of_eq_cons (isNewline_eq_false_of_mem_front scope hids)
    hothers
  have hfind := findAll_lead scope hlist
    (fun c hc => (continuesList_eq_true_iff.1 (hids c hc)).1) (isIdListChar_head?_firstLine hrest)
  simp only [List.append_assoc] at hlines
  simp only [ofComments, ofComment, Text.lines, hlines, hothers, ofLines, ofLine, hfind,
    List.flatMap_cons, List.append_assoc]

/-- The rules that a comment mutes which opens with a directive. -/
lemma isSuppressed_lead_iff {number : Int} {scope : Scope} {list rest : List Char}
    (hlist : list ≠ []) (hids : ∀ c ∈ list, continuesList c = true)
    (hrest : ∀ c ∈ rest.head?, continuesList c = false) {rule : String} {place : Option Int} :
    (ofComments [(number, "# ".toList ++ (scope.lead.toList ++ (list ++ rest)))]).isSuppressed rule
        place = true ↔
      ((scope.place number = none ∨ scope.place number = place) ∧
        ("all" ∈ idsOf list ∨ Text.lowerString rule ∈ idsOf list)) ∨
      (ofComments [(number, rest)]).isSuppressed rule place = true := by
  have hdirective :=
    isSuppressed_directive_iff ⟨scope.keyword.toList, idsOf list⟩ number rule place
  rw [Directive.scope, ofKeyword_keyword] at hdirective
  rw [ofComments_lead number scope hlist hids hrest, ← hdirective]
  simp [isSuppressed]

end Suppressions

/-! ### Directives that make up a comment -/

namespace Directive.Spelled

variable (spelled : Spelled)

/-- A comment that consists of a directive; a block comment is closed behind it. -/
def comment (closed : Bool) : String :=
  "# " ++ spelled.text ++ (if closed then " */" else "")

/-- The comment as lead, list of ids and rest. The blank before the end of a block comment belongs
to the list, where it separates nothing. -/
lemma exists_comment_eq (closed : Bool) :
    ∃ list rest, (spelled.comment closed).toList =
        "# ".toList ++ (spelled.scope.lead.toList ++ (list ++ rest)) ∧
      list ≠ [] ∧ (∀ c ∈ list, continuesList c = true) ∧
      (∀ c ∈ rest.head?, continuesList c = false) ∧ ':' ∉ rest ∧
      idsOf list = spelled.ids.map Text.lowerString := by
  have hids := idsOf_joinWith_of_isIdText spelled.isIdText
  have hlist : ∀ c ∈ (Text.joinWith "," spelled.ids).toList, continuesList c = true :=
    fun c hc => continuesList_eq_true_iff.2 (isIdListChar_of_mem_joinWith spelled.isIdText c hc)
  have hne : (Text.joinWith "," spelled.ids).toList ≠ [] := by
    intro hnil
    apply spelled.ids_ne_nil
    rw [hnil] at hids
    exact List.map_eq_nil_iff.1 hids.symm
  cases closed with
  | false =>
    refine ⟨_, [], ?_, hne, hlist, by simp, by simp, hids⟩
    simp [comment, text]
  | true =>
    have hclose : " */".toList = [' '] ++ ['*', '/'] := rfl
    refine ⟨(Text.joinWith "," spelled.ids).toList ++ [' '], ['*', '/'], ?_, by simp, ?_, ?_,
      by decide, ?_⟩
    · simp [comment, text, hclose]
    · intro c hc
      rcases List.mem_append.1 hc with hjoined | hblank
      · exact hlist c hjoined
      · rw [List.mem_singleton.1 hblank]
        decide
    · simp only [List.head?_cons, Option.mem_def, Option.some.injEq, forall_eq']
      decide
    · rw [idsOf_append_cons (by decide), hids]
      exact List.append_nil _

end Directive.Spelled

/-- Only a directive for the file has no line. -/
lemma Scope.place_eq_none_iff {scope : Scope} {number : Int} :
    scope.place number = none ↔ scope = .file := by
  cases scope <;> simp [Scope.place]

namespace Suppressions

open Directive

/-- **A directive is read back as it was written.** The ids are words with hyphens in any letter
case, and the comment ends behind them or with the end of a block comment. A rule is muted on a line
exactly when the directive names the rule and its scope covers the line. In the file as such, for
which no line is given, a rule is muted exactly when the directive is one for files and names it.

**Proof sketch.** The comment is a lead, a list of ids and a rest without a colon. So it mutes what
its directive mutes (`isSuppressed_lead_iff`), and nothing else, as there is no second opening. The
list is read as the ids in lower case. -/
theorem isSuppressed_spelled_iff (spelled : Spelled) (closed : Bool) (number : Int)
    (rule : String) :
    (∀ line, (ofComments [(number, (spelled.comment closed).toList)]).isSuppressed rule
        (some line) = true ↔ spelled.Names rule ∧ spelled.scope.Covers number line) ∧
    ((ofComments [(number, (spelled.comment closed).toList)]).isSuppressed rule none = true ↔
      spelled.scope = .file ∧ spelled.Names rule) := by
  obtain ⟨list, rest, hcomment, hlist, hchars, hrest, hcolon, hids⟩ :=
    spelled.exists_comment_eq closed
  have hmuted : ∀ place,
      (ofComments [(number, (spelled.comment closed).toList)]).isSuppressed rule place = true ↔
        (spelled.scope.place number = none ∨ spelled.scope.place number = place) ∧
          spelled.Names rule := by
    intro place
    rw [hcomment, isSuppressed_lead_iff hlist hchars hrest,
      ofComments_eq_nil (not_holdsOpening hcolon), hids, Spelled.Names,
      or_comm (a := "all" ∈ _)]
    simp [isSuppressed]
  constructor
  · intro line
    rw [hmuted, ← Scope.covers_iff_place, and_comm]
  · rw [hmuted, or_self, Scope.place_eq_none_iff]

/-- A directive with a keyword among its ids and a Kelvin sign in one of them. -/
def shouted : Spelled :=
  ⟨.nextLine, ["Disable-File", "TAS\u212a-note"], by decide, by decide +kernel⟩

/-- A directive in capital letters mutes a rule on the next line, and not for the file. -/
theorem isSuppressed_spelled_iff_shouted :
    (ofComments [(3, (shouted.comment true).toList)]).isSuppressed "task-note" (some 4) = true ∧
      ¬ (ofComments [(3, (shouted.comment true).toList)]).isSuppressed "task-note" none = true := by
  have hread := isSuppressed_spelled_iff shouted true 3 "task-note"
  refine ⟨(hread.1 4).2 ⟨.inl (by decide +kernel), rfl⟩, ?_⟩
  rw [hread.2]
  exact fun h => absurd h.1 (by decide)

end Suppressions

end SourceLint
