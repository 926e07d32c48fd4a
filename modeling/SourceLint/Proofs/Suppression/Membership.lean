import Mathlib.Tactic.Lemma
import SourceLint.Suppression.Basic

set_option autoImplicit false

/-!
# What the suppressions of comments consist of

The suppressions of a file are collected comment by comment, line by line, directive by directive
and id by id. This module opens that nest once: a suppression of some comments is an id of a
directive of a line of a comment, in the place that the directive's scope gives to the number of
that line.

## Main results

* `Suppressions.mem_ofComments_iff` — the suppressions of comments.
* `Suppressions.mem_idsAt_iff` — the ids that are muted in a place.
* `Suppressions.isSuppressed_iff` — what it takes to mute a rule in a place.
* `Suppressions.isSuppressed_directive_iff` — the rules that a directive mutes.
-/

namespace SourceLint

namespace Suppressions

variable {suppression : Suppression}

/-- What a directive suppresses: each of its identifiers, at its place. -/
lemma mem_directive_iff {directive : Directive} {number : Int} :
    suppression ∈ directive.suppressions number ↔
      suppression.line = directive.scope.place number ∧ suppression.id ∈ directive.ids := by
  unfold Directive.suppressions
  constructor
  · intro h
    obtain ⟨id, hid, rfl⟩ := List.mem_map.1 h
    exact ⟨rfl, hid⟩
  · rintro ⟨hline, hid⟩
    refine List.mem_map.2 ⟨suppression.id, hid, ?_⟩
    rw [← hline]

/-- The lines of a comment are numbered from the line that it starts on. -/
lemma mem_ofLines_iff {number : Int} {lines : List (List Char)} :
    suppression ∈ ofLines number lines ↔
      ∃ (k : Nat) (line : List Char), lines[k]? = some line ∧
        suppression ∈ ofLine (number + k) line := by
  induction lines generalizing number with
  | nil => simp [ofLines]
  | cons first lines ih =>
    rw [ofLines, List.mem_append, ih]
    constructor
    · rintro (hfirst | ⟨k, line, hline, hmem⟩)
      · exact ⟨0, first, rfl, by simpa using hfirst⟩
      · refine ⟨k + 1, line, by simpa using hline, ?_⟩
        rw [show number + (k + 1 : Nat) = number + 1 + k by omega]
        exact hmem
    · rintro ⟨k, line, hline, hmem⟩
      cases k with
      | zero =>
        obtain rfl : first = line := by simpa using hline
        exact .inl (by simpa using hmem)
      | succ k =>
        refine .inr ⟨k, line, by simpa using hline, ?_⟩
        rw [show number + (k + 1 : Nat) = number + 1 + k by omega] at hmem
        exact hmem

/-- The suppressions of comments are the ids of the directives on their lines. -/
lemma mem_ofComments_iff {comments : List (Int × List Char)} :
    suppression ∈ ofComments comments ↔
      ∃ comment ∈ comments, ∃ (k : Nat) (line : List Char),
        (Text.lines comment.2)[k]? = some line ∧ ∃ directive ∈ Directive.findAll line,
          suppression.line = directive.scope.place (comment.1 + k) ∧
            suppression.id ∈ directive.ids := by
  simp only [ofComments, ofComment, List.mem_flatMap, mem_ofLines_iff, ofLine, mem_directive_iff]

/-- The ids that are muted in a place are those of the suppressions for it. -/
lemma mem_idsAt_iff {suppressions : Suppressions} {place : Option Int} {id : String} :
    id ∈ suppressions.idsAt place ↔ ⟨place, id⟩ ∈ suppressions := by
  simp only [idsAt, Text.sortedSet, Text.mem_sortStrings, List.mem_eraseDups, List.mem_map,
    List.mem_filter, beq_iff_eq]
  constructor
  · rintro ⟨suppression, ⟨hmem, rfl⟩, rfl⟩
    exact hmem
  · intro hmem
    exact ⟨⟨place, id⟩, ⟨hmem, rfl⟩, rfl⟩

/-- A rule is muted in a place when its id or the id for all rules is muted there or in the whole
file. -/
lemma isSuppressed_iff {suppressions : Suppressions} {rule : String} {place : Option Int} :
    suppressions.isSuppressed rule place = true ↔
      ∃ suppression ∈ suppressions,
        (suppression.line = none ∨ suppression.line = place) ∧
          (suppression.id = "all" ∨ suppression.id = Text.lowerString rule) := by
  simp [isSuppressed, Suppression.covers, Suppression.names]

/-- A directive mutes the rules that it names in the place of its scope. -/
lemma isSuppressed_directive_iff (directive : Directive) (number : Int) (rule : String)
    (place : Option Int) :
    isSuppressed (directive.suppressions number) rule place = true ↔
      (directive.scope.place number = none ∨ directive.scope.place number = place) ∧
        ("all" ∈ directive.ids ∨ Text.lowerString rule ∈ directive.ids) := by
  rw [isSuppressed_iff]
  constructor
  · rintro ⟨suppression, hmem, hplace, hid⟩
    obtain ⟨hline, hids⟩ := mem_directive_iff.1 hmem
    rw [hline] at hplace
    rcases hid with hall | hrule
    · exact ⟨hplace, .inl (hall ▸ hids)⟩
    · exact ⟨hplace, .inr (hrule ▸ hids)⟩
  · rintro ⟨hplace, hall | hrule⟩
    · exact ⟨⟨directive.scope.place number, "all"⟩, mem_directive_iff.2 ⟨rfl, hall⟩, hplace,
        .inl rfl⟩
    · exact ⟨⟨directive.scope.place number, Text.lowerString rule⟩,
        mem_directive_iff.2 ⟨rfl, hrule⟩, hplace, .inr rfl⟩

end Suppressions

end SourceLint
