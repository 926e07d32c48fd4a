import SourceLint.Proofs.Directive.Occurrence
import SourceLint.Proofs.Suppression.Membership

set_option autoImplicit false

/-!
# What a directive covers

A directive asks for a scope by its keyword: for its own line, for the line after it, or for the
whole file. The keyword is recognised in any letter case, which includes foreign forms of letters,
but its scope is decided by comparing its lower-case form with two of the keywords. A keyword with a
foreign form is lower-cased to none of them and is then taken to ask for the whole file.

So a rule is muted on a line exactly when a directive asks for that, or when any directive for the
rule has a keyword with a foreign letter. What is asked for is what is done as long as all keywords
are plain.

## Main definitions

* `Scope.Covers` — the lines that a scope covers.
* `Suppressions.AskedFor` — a directive asks to mute a rule on a line.
* `Suppressions.Overreached` — a directive for a rule has a keyword with a foreign letter.

## Main results

* `Directive.Stands.scope_eq` — the scope of a directive, from its keyword and its letters.
* `Suppressions.isSuppressed_iff_askedFor` — what is muted, and when that is what was asked for.
* `Suppressions.foreign_letter_mutes_file` — a directive for one line that mutes the whole file.
-/

namespace SourceLint

/-- The lines that a scope covers, for a directive that stands on the line with a number. -/
def Scope.Covers : Scope → Int → Int → Prop
  | .line, number, l => l = number
  | .nextLine, number, l => l = number + 1
  | .file, _, _ => True

/-- A scope covers the file or the line that it is placed at. -/
lemma Scope.covers_iff_place {scope : Scope} {number line : Int} :
    scope.Covers number line ↔ scope.place number = none ∨ scope.place number = some line := by
  cases scope <;> simp [Covers, place, eq_comm]

namespace Directive

/-- A directive has the scope that its keyword stands for when the keyword is plain. Any other one
covers the whole file. -/
lemma Stands.scope_eq {text rest : List Char} {o : Occurrence} (h : Stands text o rest) :
    o.directive.scope = if Text.IsPlain o.directive.keyword then o.asked else .file := by
  cases h with
  | @intro asked word _ _ keyword _ _ _ _ _ hasked hspells _ _ _ _ =>
    have hword := isKeywordChar_of_mem_keywords word (mem_keywords_iff.2 ⟨asked, hasked⟩)
    have hnext := hspells.lower_eq_iff hword
      (show Text.IsPlain "disable-next-line".toList by decide)
    have hline := hspells.lower_eq_iff hword (show Text.IsPlain "disable".toList by decide)
    have hscope : ∀ asked : Scope, ∀ word ∈ asked.keywords,
        (if word.toList = "disable-next-line".toList then Scope.nextLine
          else if word.toList = "disable".toList then .line else .file) = asked := by
      intro asked
      cases asked <;> decide
    simp only [scope, Scope.ofKeyword, hnext, hline]
    by_cases hplain : Text.IsPlain keyword
    · simpa only [hplain, true_and, if_true] using hscope asked word hasked
    · simp [hplain]

end Directive

namespace Suppressions

variable {comments : List (Int × List Char)} {rule : String} {number line : Int}

/-- A directive that names a rule occurs in one of the comments, on the line with a number. Lines
of a comment end at line feeds and are numbered from the line that it starts on. -/
def Names (comments : List (Int × List Char)) (rule : String) (number : Int)
    (o : Directive.Occurrence) : Prop :=
  ∃ comment ∈ comments, ∃ (k : Nat) (text : List Char) (found : List Directive.Occurrence),
    (Text.lines comment.2)[k]? = some text ∧ number = comment.1 + k ∧
      Directive.Found text found ∧ o ∈ found ∧
        ("all" ∈ o.directive.ids ∨ Text.lowerString rule ∈ o.directive.ids)

/-- Some directive names the rule, and the scope of its keyword covers the line. -/
def AskedFor (comments : List (Int × List Char)) (rule : String) (line : Int) : Prop :=
  ∃ number o, Names comments rule number o ∧ o.asked.Covers number line

/-- Some directive that names the rule has a keyword with a foreign letter. -/
def Overreached (comments : List (Int × List Char)) (rule : String) : Prop :=
  ∃ number o, Names comments rule number o ∧ ¬ Text.IsPlain o.directive.keyword

/-- A rule is muted on a line when the scope of a directive that names it covers the line. -/
lemma isSuppressed_ofComments_iff :
    (ofComments comments).isSuppressed rule (some line) = true ↔
      ∃ number o, Names comments rule number o ∧ o.directive.scope.Covers number line := by
  rw [isSuppressed_iff]
  constructor
  · rintro ⟨suppression, hmem, hplace, hid⟩
    obtain ⟨comment, hcomment, k, text, htext, directive, hdirective, hline, hids⟩ :=
      mem_ofComments_iff.1 hmem
    refine ⟨comment.1 + k, directive.occurrence,
      ⟨comment, hcomment, k, text, _, htext, rfl, Directive.found_iff.2 rfl, ?_, ?_⟩, ?_⟩
    · exact List.mem_map_of_mem hdirective
    · rcases hid with hall | hrule
      · exact .inl (hall ▸ hids)
      · exact .inr (hrule ▸ hids)
    · rw [hline] at hplace
      exact Scope.covers_iff_place.2 hplace
  · rintro ⟨number, o, ⟨comment, hcomment, k, text, found, htext, rfl, hfound, ho, hid⟩, hcovers⟩
    have hdirective : o.directive ∈ Directive.findAll text := by
      rw [hfound.findAll_eq]
      exact List.mem_map_of_mem ho
    obtain ⟨id, hids, hid⟩ : ∃ id ∈ o.directive.ids, id = "all" ∨ id = Text.lowerString rule := by
      rcases hid with hall | hrule
      · exact ⟨_, hall, .inl rfl⟩
      · exact ⟨_, hrule, .inr rfl⟩
    refine ⟨⟨o.directive.scope.place (comment.1 + k), id⟩, ?_,
      Scope.covers_iff_place.1 hcovers, hid⟩
    exact mem_ofComments_iff.2
      ⟨comment, hcomment, k, text, htext, o.directive, hdirective, rfl, hids⟩

/-- The directive of an occurrence covers what its keyword asks for, and everything when the
keyword has a foreign letter. -/
lemma Names.covers_iff {o : Directive.Occurrence} (h : Names comments rule number o) :
    o.directive.scope.Covers number line ↔
      o.asked.Covers number line ∨ ¬ Text.IsPlain o.directive.keyword := by
  obtain ⟨comment, _, k, line', found, _, _, hfound, ho, _⟩ := h
  obtain ⟨text, rest, hstands⟩ := hfound.exists_stands ho
  rw [hstands.scope_eq]
  by_cases hplain : Text.IsPlain o.directive.keyword
  · simp [hplain]
  · simp [hplain, Scope.Covers]

/-- **What is muted, and when that is what was asked for.** A rule is muted on a line exactly when
some directive asks for it, or when any directive that names the rule has a keyword with a foreign
letter. So muting is what the directives ask for exactly when such a keyword, if there is one, does
no more than what is asked for anyway.

**Proof sketch.** The scope of an occurrence is the one its keyword asks for when the keyword is
plain, and the whole file otherwise (`Directive.Stands.scope_eq`); the search finds exactly the
occurrences of a line (`Directive.found_iff`). -/
theorem isSuppressed_iff_askedFor (comments : List (Int × List Char)) (rule : String) (line : Int) :
    ((ofComments comments).isSuppressed rule (some line) = true ↔
        AskedFor comments rule line ∨ Overreached comments rule) ∧
      (((ofComments comments).isSuppressed rule (some line) = true ↔ AskedFor comments rule line) ↔
        (Overreached comments rule → AskedFor comments rule line)) := by
  have hmuted : (ofComments comments).isSuppressed rule (some line) = true ↔
      AskedFor comments rule line ∨ Overreached comments rule := by
    rw [isSuppressed_ofComments_iff]
    constructor
    · rintro ⟨number, o, hnames, hcovers⟩
      rcases hnames.covers_iff.1 hcovers with hasked | hforeign
      · exact .inl ⟨number, o, hnames, hasked⟩
      · exact .inr ⟨number, o, hnames, hforeign⟩
    · rintro (⟨number, o, hnames, hasked⟩ | ⟨number, o, hnames, hforeign⟩)
      · exact ⟨number, o, hnames, hnames.covers_iff.2 (.inl hasked)⟩
      · exact ⟨number, o, hnames, hnames.covers_iff.2 (.inr hforeign)⟩
  refine ⟨hmuted, ?_⟩
  rw [hmuted]
  tauto

/-- A comment with a directive for its own line whose keyword is written with a long s. -/
def longS : List Char :=
  "# sloplint: di\u017fable=step-comment".toList

/-- The directive asks to mute a rule on line 1, and the rule is muted on line 2 too. -/
theorem foreign_letter_mutes_file :
    (ofComments [(1, longS)]).isSuppressed "step-comment" (some 2) = true ∧
      ¬ AskedFor [(1, longS)] "step-comment" 2 := by
  refine ⟨by decide +kernel, ?_⟩
  have hlines : Text.lines longS = [longS] := by decide
  have hdirectives : Directive.findAll longS = [⟨"di\u017fable".toList, ["step-comment"]⟩] := by
    decide +kernel
  rintro ⟨number, o, ⟨comment, hcomment, k, text, found, htext, rfl, hfound, ho, -⟩, hcovers⟩
  obtain rfl : comment = (1, longS) := List.mem_singleton.1 hcomment
  dsimp only at htext hcovers
  rw [hlines, List.getElem?_singleton] at htext
  split at htext
  · rename_i hk
    obtain rfl : longS = text := Option.some.inj htext
    rw [Directive.found_iff.1 hfound, hdirectives, List.map_singleton, List.mem_singleton] at ho
    subst ho hk
    simp [Directive.occurrence, Scope.ofLength, Scope.Covers] at hcovers
  · simp at htext

end Suppressions

end SourceLint
