import SourceLint.Proofs.Pattern.Apart
import SourceLint.Proofs.Rule.Reach

set_option autoImplicit false

/-!
# Comments that several rules find

A comment may be found by more than one rule, but not by many. Among the phrases of all comment
rules, those of the rule on obvious comments alone go on to phrases of other rules: a verb and a
blank may be the start of a placeholder or of a sentence that an assistant has left. Any two other
rules exclude each other, whatever the comment says.

## Main results

* `CommentRule.pairwise_excludes`, `CommentRule.obvious_excludes` — the rules that exclude each
  other.
* `CommentRule.coinciding_rules` — the rules that find the same comment.
-/

namespace SourceLint.CommentRule

open Pattern

/-- The comment rules apart from the one on obvious comments. -/
def others : List CommentRule :=
  [.narrator, .step, .divider, .placeholder, .apologetic, .generated]

/-- No text is found that starts like comments of two kinds, except for obvious comments that are
also placeholders or left by assistants. -/
lemma apart_patterns :
    (others.Pairwise fun rule other => apart 20 rule.pattern other.pattern = true) ∧
      ∀ rule ∈ [narrator, step, divider, apologetic],
        apart 20 obvious.pattern rule.pattern = true := by
  decide +kernel

/-- **The other rules exclude each other.** -/
lemma pairwise_excludes : others.Pairwise fun rule other => rule.pattern.Excludes other.pattern :=
  apart_patterns.1.imp excludes_of_apart

/-- The rule on obvious comments excludes most of them. -/
lemma obvious_excludes {rule : CommentRule} (h : rule ∈ [narrator, step, divider, apologetic]) :
    obvious.pattern.Excludes rule.pattern :=
  excludes_of_apart (apart_patterns.2 rule h)

variable {rule other : CommentRule} {source : Source} {node : Node}

/-- Every rule but the one on obvious comments is among the others. -/
lemma mem_others (h : rule ≠ obvious) : rule ∈ others := by
  cases rule with
  | obvious => exact absurd rfl h
  | narrator | step | divider | placeholder | apologetic | generated => decide

/-- A rule finds only comments that start like one of its kind. -/
lemma acceptsPrefix_of_check (h : (rule.check source node).isSome = true) :
    rule.pattern.acceptsPrefix (Text.strip (source.textOf node)) = true := by
  rw [isSome_check, Bool.and_eq_true, finds, Bool.and_eq_true] at h
  exact h.2.2

/-- Rules that exclude each other do not find the same comment. -/
lemma not_check_of_excludes (h : rule.pattern.Excludes other.pattern)
    (hrule : (rule.check source node).isSome = true) :
    (other.check source node).isSome = false := by
  rw [Bool.eq_false_iff]
  intro hother
  exact h _ ⟨acceptsPrefix_of_check hrule, acceptsPrefix_of_check hother⟩

/-- Of the other rules at most one finds a comment. -/
lemma length_filter_others_le :
    (others.filter fun rule => (rule.check source node).isSome).length ≤ 1 := by
  have hpairwise := pairwise_excludes.filter fun rule => (rule.check source node).isSome
  have hfound : ∀ rule ∈ others.filter fun rule => (rule.check source node).isSome,
      (rule.check source node).isSome = true := fun rule hrule => (List.mem_filter.1 hrule).2
  generalize (others.filter fun rule => (rule.check source node).isSome) = found at hpairwise hfound
  cases found with
  | nil => simp
  | cons first rest =>
    cases rest with
    | nil => simp
    | cons second rest =>
      have hexcludes := (List.pairwise_cons.1 hpairwise).1 second (by simp)
      have hsecond := not_check_of_excludes hexcludes (hfound first (by simp))
      rw [hfound second (by simp)] at hsecond
      cases hsecond

/-- What an obvious comment may be besides. -/
lemma eq_of_check_obvious (hobvious : (obvious.check source node).isSome = true)
    (hother : (other.check source node).isSome = true) (hne : other ≠ obvious) :
    other = placeholder ∨ other = generated := by
  by_contra hneither
  have hmem : other ∈ [narrator, step, divider, apologetic] := by
    cases other <;> simp_all
  rw [not_check_of_excludes (obvious_excludes hmem) hobvious] at hother
  cases hother

/-- **The rules that find the same comment.** At most two rules find a comment, whatever the
language and the text. If two do, one is that on obvious comments, and the other one that on
placeholders or that on what assistants leave.

**Proof sketch.** A rule finds comments that start with a word of its pattern. A search through the
first characters of all patterns shows that no text starts with words of two of them, apart from
those that are named. -/
theorem coinciding_rules (source : Source) (node : Node) :
    (all.filter fun rule => (rule.check source node).isSome).length ≤ 2 ∧
      ∀ rule other, rule ≠ other → (rule.check source node).isSome = true →
        (other.check source node).isSome = true →
        (rule = obvious ∧ (other = placeholder ∨ other = generated)) ∨
          (other = obvious ∧ (rule = placeholder ∨ rule = generated)) := by
  constructor
  · have hall : all = obvious :: others := rfl
    have hothers := @length_filter_others_le source node
    rw [hall, List.filter_cons]
    split
    · rw [List.length_cons]
      omega
    · omega
  · intro rule other hne hrule hother
    by_cases hobvious : rule = obvious
    · subst hobvious
      exact .inl ⟨rfl, eq_of_check_obvious hrule hother hne.symm⟩
    by_cases hobvious' : other = obvious
    · subst hobvious'
      exact .inr ⟨rfl, eq_of_check_obvious hother hrule hne⟩
    have : Std.Symm fun rule other : CommentRule => rule.pattern.Excludes other.pattern :=
      ⟨fun _ _ h => h.symm⟩
    have hexcludes := pairwise_excludes.forall (mem_others hobvious) (mem_others hobvious') hne
    rw [not_check_of_excludes hexcludes hrule] at hother
    cases hother

/-- Both exceptions occur. -/
example :
    (obvious.pattern.acceptsPrefix "// Handle other cases similarly".toList = true ∧
      placeholder.pattern.acceptsPrefix "// Handle other cases similarly".toList = true) ∧
      obvious.pattern.acceptsPrefix "# Add your code here".toList = true ∧
        generated.pattern.acceptsPrefix "# Add your code here".toList = true := by
  decide +kernel

end SourceLint.CommentRule
