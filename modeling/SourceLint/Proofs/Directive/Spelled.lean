import SourceLint.Proofs.Directive.Written

set_option autoImplicit false

/-!
# Ids in any letter case

The ids of a directive are lower-cased when they are read, so they may be written in any letter
case. This module says which texts are an id in the usual form once they are lower-cased: they
consist of letters in either case, digits and hyphens. One character more is possible, the Kelvin
sign, as its lower-case form is the plain `k`; it can stand in an id list like any other form of a
letter. All other characters beyond the seven-bit range stay beyond it.

## Main definitions

* `Directive.Spelled` — a directive in the usual form, with ids in any letter case.

## Main results

* `Text.eq_kelvin_of_lowerChar` — the one foreign character with a plain lower-case form.
* `Directive.isIdText_of_isKebab_lower` — what is an id after lower-casing is read as one id.
-/

namespace SourceLint

namespace Text

/-- All runs of foreign capitals but the Kelvin sign have foreign lower-case forms. -/
lemma lowered_of_mem_caseRuns {run : CaseRun} (h : run ∈ caseRuns) :
    0x80 ≤ run.lowered ∨ (run.first = 0x212a ∧ run.last = 0x212a) := by
  have hall : caseRuns.all (fun run => decide (0x80 ≤ run.lowered) ||
      (run.first == 0x212a && run.last == 0x212a)) = true := by decide +kernel
  have hrun := List.all_eq_true.1 hall run h
  simpa using hrun

/-- The Kelvin sign is the one foreign character whose lower-case form is a plain one other than
the zero character. -/
lemma eq_kelvin_of_lowerChar {c : Char} (hc : 0x80 ≤ c.toNat) (hpos : 0 < (lowerChar c).toNat)
    (hplain : (lowerChar c).toNat < 0x80) : c = '\u212a' := by
  unfold lowerChar at hpos hplain
  rw [if_neg (by omega)] at hpos hplain
  split at hplain
  · rename_i run hrun
    rw [hrun] at hpos
    dsimp only at hpos
    have hcovers := List.find?_some hrun
    simp only [CaseRun.covers, Bool.and_eq_true, decide_eq_true_eq] at hcovers
    rcases lowered_of_mem_caseRuns (List.mem_of_find?_eq_some hrun) with hforeign | ⟨hfirst, hlast⟩
    · -- a code point that is none would give the zero character
      have hcode := Char.toNat_ofNat (run.lowered + (c.toNat - run.first))
      split at hcode <;> omega
    · have hcode : c.toNat = 0x212a := by omega
      rw [← Char.ofNat_toNat c, hcode]
  · omega

end Text

namespace Directive

/-- Letters can stand in an id list, and they separate nothing. -/
lemma isIdListChar_of_isAlpha {c : Char} (h : c.isAlpha = true) :
    isIdListChar c = true ∧ isIdSeparator c = false := by
  have hcode := Text.isAlpha_iff.1 h
  have hblank : Text.isBlank c = false := Text.isBlank_eq_false (by omega)
  have hcomma : c ≠ ',' := by
    rintro rfl
    exact absurd h (by decide)
  exact ⟨by simp [isIdListChar, Char.isAlphanum, h], by simp [isIdSeparator, hblank, hcomma]⟩

/-- A plain character that belongs to an id in lower case also belongs to one as it stands. -/
lemma isIdListChar_of_toLower {c : Char} (h : isKebabChar c.toLower = true) :
    isIdListChar c = true ∧ isIdSeparator c = false := by
  by_cases hletter : c.isAlpha = true
  · exact isIdListChar_of_isAlpha hletter
  · rw [Text.toLower_of_not_isAlpha (by simpa using hletter)] at h
    exact isIdListChar_of_isKebabChar h

/-- A character whose lower-case form consists of characters of an id can stand in an id list, and
it separates nothing. -/
lemma isIdListChar_of_lowerAt {c : Char} {afterCased : Bool} {rest : List Char}
    (h : ∀ d ∈ Text.lowerAt afterCased c rest, isKebabChar d = true) :
    isIdListChar c = true ∧ isIdSeparator c = false := by
  unfold Text.lowerAt at h
  split at h
  · -- both forms of the small sigma are foreign
    have hsigma := h _ (List.mem_singleton_self _)
    split at hsigma <;> exact absurd hsigma (by decide)
  split at h
  · have hdot := h '\u0307' (by simp)
    exact absurd hdot (by decide)
  have hchar := h _ (List.mem_singleton_self _)
  by_cases hplain : c.toNat < 0x80
  · rw [Text.lowerChar, if_pos hplain] at hchar
    exact isIdListChar_of_toLower hchar
  · have hcode := toNat_of_isKebabChar hchar
    obtain rfl := Text.eq_kelvin_of_lowerChar (c := c) (by omega) (by omega) (by omega)
    decide

/-- What is an id after lower-casing is read as one id. -/
lemma isIdText_of_isKebab_lower {id : String} (h : isKebab (Text.lowerString id) = true) :
    IsIdText id := by
  have hchars := isKebabChar_of_isKebab h
  rw [Text.lowerString, String.toList_ofList] at hchars
  constructor
  · intro hnil
    apply toList_ne_nil_of_isKebab h
    rw [Text.lowerString, hnil]
    rfl
  · intro c hc
    obtain ⟨afterCased, rest, hpart⟩ := Text.exists_lowerAt_subset_lower hc
    exact isIdListChar_of_lowerAt fun d hd => hchars d (hpart hd)

/-- A directive in the usual form whose ids, of which there is at least one, are written in any
letter case. -/
structure Spelled where
  scope : Scope
  ids : List String
  ids_ne_nil : ids ≠ []
  ids_isKebab : ∀ id ∈ ids, isKebab (Text.lowerString id) = true

namespace Spelled

/-- The text of a directive. -/
def text (spelled : Spelled) : String :=
  spelled.scope.lead ++ Text.joinWith "," spelled.ids

/-- A directive names the rules whose ids it lists, and every rule if it lists the id for all of
them. Letter case makes no difference. -/
def Names (spelled : Spelled) (rule : String) : Prop :=
  Text.lowerString rule ∈ spelled.ids.map Text.lowerString ∨
    "all" ∈ spelled.ids.map Text.lowerString

/-- The identifiers that are spelled are texts of identifiers. -/
lemma isIdText (spelled : Spelled) : ∀ id ∈ spelled.ids, IsIdText id :=
  fun id hid => isIdText_of_isKebab_lower (spelled.ids_isKebab id hid)

end Spelled

end Directive

end SourceLint
