import Mathlib
import SourceLint.Text.Blank
import SourceLint.Text.Case

set_option autoImplicit false

/-!
# Words in any letter case

A written text *spells* a word when it has the same letters, letter case aside. This admits more
texts than the seven-bit ones: the long s stands for `s`, the Kelvin sign for `k`, and the dotted
capital and the dotless small letter for `i`. Lower-casing treats these differently. It maps the
Kelvin sign to `k`, but it leaves the long s and the dotless i alone, and it adds a combining dot to
the dotted capital.

So a text that spells a word is lower-cased to that word exactly when it is plain, provided that the
word has no `k`.

## Main definitions

* `Text.IsPlain` — seven-bit characters only.
* `Text.Spells` — the same letters, letter case aside.
* `Text.isKeywordChar` — the characters of which the keywords consist.

## Main results

* `Text.lower_eq_map` — plain texts are lower-cased character by character.
* `Text.Spells.lower_eq_iff` — when a spelling is lower-cased to a given text.
-/

namespace SourceLint.Text

/-- A text of seven-bit characters only. -/
def IsPlain (cs : List Char) : Prop :=
  ∀ c ∈ cs, c.toNat < 0x80

/-- Whether a text is plain can be computed. -/
instance (cs : List Char) : Decidable (IsPlain cs) :=
  -- spelt out, as the search may settle on an instance that runs through all characters
  decidable_of_iff (cs.all fun c => c.toNat < 0x80) (by simp [IsPlain])

/-- A written text has the letters of a word, letter case aside. -/
def Spells (word written : List Char) : Prop :=
  List.Forall₂ (fun x c => sameLetter x c = true) word written

/-- A character of a keyword: a small letter other than `k`, a hyphen or an underscore. -/
def isKeywordChar (x : Char) : Bool :=
  (x.isLower && x != 'k') || x == '-' || x == '_'

/-! ### Characters -/

/-- Capital letters by their code points. -/
lemma isUpper_iff {c : Char} : c.isUpper = true ↔ 65 ≤ c.toNat ∧ c.toNat ≤ 90 := by
  simp [Char.isUpper, UInt32.le_iff_toNat_le]

/-- Small letters by their code points. -/
lemma isLower_iff {c : Char} : c.isLower = true ↔ 97 ≤ c.toNat ∧ c.toNat ≤ 122 := by
  simp [Char.isLower, UInt32.le_iff_toNat_le]

/-- Digits by their code points. -/
lemma isDigit_iff {c : Char} : c.isDigit = true ↔ 48 ≤ c.toNat ∧ c.toNat ≤ 57 := by
  simp [Char.isDigit, UInt32.le_iff_toNat_le]

/-- Letters by their code points. -/
lemma isAlpha_iff {c : Char} :
    c.isAlpha = true ↔ (65 ≤ c.toNat ∧ c.toNat ≤ 90) ∨ (97 ≤ c.toNat ∧ c.toNat ≤ 122) := by
  rw [Char.isAlpha, Bool.or_eq_true, isUpper_iff, isLower_iff]

/-- Only capitals are changed. -/
lemma toLower_eq_self {c : Char} (h : c.toNat < 65 ∨ 90 < c.toNat) : c.toLower = c := by
  apply Char.toLower_eq_of_not_isUpper
  rw [isUpper_iff]
  omega

/-- A character that is no letter is not changed. -/
lemma toLower_of_not_isAlpha {c : Char} (h : c.isAlpha = false) : c.toLower = c := by
  apply toLower_eq_self
  rw [Bool.eq_false_iff, ne_eq, isAlpha_iff] at h
  omega

/-- No printed seven-bit character is blank. -/
lemma isBlank_eq_false {c : Char} (h : 33 ≤ c.toNat ∧ c.toNat ≤ 126) : isBlank c = false := by
  rw [Bool.eq_false_iff]
  intro hblank
  obtain ⟨range, hrange, hc⟩ := Ranges.contains_iff.1 hblank
  simp only [blankRanges, List.mem_cons, List.not_mem_nil, or_false] at hrange
  rcases hrange with rfl | rfl | rfl | rfl | rfl | rfl | rfl | rfl | rfl | rfl <;>
    simp only at hc <;> omega

/-- Blanks are no capitals. -/
lemma toLower_eq_self_of_isBlank {c : Char} (h : isBlank c = true) : c.toLower = c := by
  apply toLower_eq_self
  by_contra hc
  rw [isBlank_eq_false (by omega)] at h
  simp at h

/-- The forms of a letter: its own two, or those of other scripts. -/
lemma cases_of_sameLetter {x c : Char} (h : sameLetter x c = true) :
    c.toLower = x.toLower ∨ (x.toLower = 's' ∧ c = '\u017f') ∨ (x.toLower = 'k' ∧ c = '\u212a') ∨
      (x.toLower = 'i' ∧ (c = '\u0130' ∨ c = '\u0131')) := by
  unfold sameLetter at h
  rcases Bool.or_eq_true_iff.1 h with hown | hforeign
  · exact .inl (by simpa using hown)
  · split at hforeign
    · rename_i hx
      exact .inr (.inl ⟨hx, by simpa using hforeign⟩)
    · rename_i hx
      exact .inr (.inr (.inl ⟨hx, by simpa using hforeign⟩))
    · rename_i hx
      exact .inr (.inr (.inr ⟨hx, by simpa using hforeign⟩))
    · simp at hforeign

/-- A character that is no letter has no other form. -/
lemma eq_of_sameLetter {x c : Char} (hx : x.isAlpha = false) (h : sameLetter x c = true) :
    c = x := by
  have hlow := toLower_of_not_isAlpha hx
  rcases cases_of_sameLetter h with hown | ⟨hs, -⟩ | ⟨hk, -⟩ | ⟨hi, -⟩
  · have hc : c.isAlpha = false := by
      rw [← Char.isLower_toLower_eq_isAlpha, hown, Char.isLower_toLower_eq_isAlpha, hx]
    rw [← toLower_of_not_isAlpha hc, hown, hlow]
  · rw [← hlow, hs] at hx
    exact absurd hx (by decide)
  · rw [← hlow, hk] at hx
    exact absurd hx (by decide)
  · rw [← hlow, hi] at hx
    exact absurd hx (by decide)

/-- The characters of keywords by their code points. -/
lemma toNat_of_isKeywordChar {x : Char} (hx : isKeywordChar x = true) :
    x.toNat = 45 ∨ x.toNat = 95 ∨ (97 ≤ x.toNat ∧ x.toNat ≤ 122) := by
  simp only [isKeywordChar, Bool.or_eq_true, Bool.and_eq_true, bne_iff_ne, beq_iff_eq,
    isLower_iff] at hx
  rcases hx with (⟨hletter, -⟩ | rfl) | rfl
  · exact .inr (.inr hletter)
  · exact .inl rfl
  · exact .inr (.inl rfl)

/-- The characters of keywords are in lower case. -/
lemma toLower_of_isKeywordChar {x : Char} (hx : isKeywordChar x = true) : x.toLower = x := by
  have hcode := toNat_of_isKeywordChar hx
  exact toLower_eq_self (by omega)

/-- The forms of a character of a keyword: its own two, or the foreign forms of `s` and `i`. -/
lemma cases_of_sameLetter_keywordChar {x c : Char} (hx : isKeywordChar x = true)
    (h : sameLetter x c = true) :
    c.toLower = x ∨ c = '\u017f' ∨ c = '\u0130' ∨ c = '\u0131' := by
  have hlow := toLower_of_isKeywordChar hx
  rcases cases_of_sameLetter h with hown | ⟨-, rfl⟩ | ⟨hk, -⟩ | ⟨-, hi⟩
  · exact .inl (hown.trans hlow)
  · exact .inr (.inl rfl)
  · rw [hlow] at hk
    subst hk
    exact absurd hx (by decide)
  · exact .inr (.inr hi)

/-- No form of a character of a keyword is blank. -/
lemma isBlank_of_sameLetter_keywordChar {x c : Char} (hx : isKeywordChar x = true)
    (h : sameLetter x c = true) : isBlank c = false := by
  rcases cases_of_sameLetter_keywordChar hx h with hown | rfl | rfl | rfl
  · rw [Bool.eq_false_iff]
    intro hblank
    rw [toLower_eq_self_of_isBlank hblank] at hown
    have hcode := toNat_of_isKeywordChar hx
    rw [hown, isBlank_eq_false (by omega)] at hblank
    simp at hblank
  · decide
  · decide
  · decide

/-! ### Lower-casing -/

/-- A seven-bit character is lower-cased on its own. -/
lemma lowerAt_of_lt {c : Char} (hc : c.toNat < 0x80) (afterCased : Bool) (rest : List Char) :
    lowerAt afterCased c rest = [c.toLower] := by
  have hsigma : c ≠ '\u03a3' := by
    rintro rfl
    exact absurd hc (by decide)
  have hdotted : c ≠ '\u0130' := by
    rintro rfl
    exact absurd hc (by decide)
  rw [lowerAt, if_neg hsigma, if_neg hdotted, lowerChar, if_pos hc]

/-- Plain texts are lower-cased character by character. -/
lemma lower_eq_map {cs : List Char} (h : IsPlain cs) : lower cs = cs.map Char.toLower := by
  have hfrom : ∀ afterCased, lowerFrom afterCased cs = cs.map Char.toLower := by
    induction cs with
    | nil => exact fun _ => rfl
    | cons c cs ih =>
      intro afterCased
      rw [lowerFrom, lowerAt_of_lt (h c List.mem_cons_self),
        ih (fun d hd => h d (List.mem_cons_of_mem c hd))]
      rfl
  exact hfrom false

/-- The lower-case form of each character is part of the lower-case form of the text. -/
lemma exists_lowerAt_subset_lower {cs : List Char} {c : Char} (h : c ∈ cs) :
    ∃ afterCased rest, lowerAt afterCased c rest ⊆ lower cs := by
  have hfrom : ∀ before, ∃ afterCased rest, lowerAt afterCased c rest ⊆ lowerFrom before cs := by
    induction cs with
    | nil => simp at h
    | cons d cs ih =>
      intro before
      rcases List.mem_cons.1 h with rfl | htail
      · exact ⟨before, cs, List.subset_append_left _ _⟩
      · obtain ⟨afterCased, rest, hsub⟩ := ih htail
          (if caseIgnorableRanges.contains d then before else casedRanges.contains d)
        exact ⟨afterCased, rest, List.Subset.trans hsub (List.subset_append_right _ _)⟩
  exact hfrom false

/-- The lower-case form of a character is not empty. -/
lemma lowerAt_ne_nil (afterCased : Bool) (c : Char) (rest : List Char) :
    lowerAt afterCased c rest ≠ [] := by
  unfold lowerAt
  split
  · simp
  · split <;> simp

/-- Lower-casing leaves something of every character. -/
lemma lower_ne_nil {cs : List Char} (h : cs ≠ []) : lower cs ≠ [] := by
  obtain ⟨c, hc⟩ := List.exists_mem_of_ne_nil cs h
  obtain ⟨afterCased, rest, hpart⟩ := exists_lowerAt_subset_lower hc
  exact fun hnil => lowerAt_ne_nil afterCased c rest (List.subset_nil.1 (hnil ▸ hpart))

/-- The foreign forms of `s` and `i` stay foreign when they are lower-cased. -/
lemma exists_foreign_lowerAt {c : Char} (hc : c = '\u017f' ∨ c = '\u0130' ∨ c = '\u0131')
    (afterCased : Bool) (rest : List Char) :
    ∃ d ∈ lowerAt afterCased c rest, 0x80 ≤ d.toNat := by
  rcases hc with rfl | rfl | rfl
  · have hlow : lowerChar '\u017f' = '\u017f' := by decide
    exact ⟨'\u017f', by simp [lowerAt, hlow], by decide⟩
  · exact ⟨'\u0307', by simp [lowerAt], by decide⟩
  · have hlow : lowerChar '\u0131' = '\u0131' := by decide
    exact ⟨'\u0131', by simp [lowerAt, hlow], by decide⟩

/-! ### Spellings -/

/-- What spells a word is as long as the word. -/
lemma Spells.length_eq {word written : List Char} (h : Spells word written) :
    written.length = word.length :=
  (List.Forall₂.length_eq h).symm

/-- Every character of a spelling is a form of a character of the word. -/
lemma Spells.exists_sameLetter {word written : List Char} (h : Spells word written) {c : Char}
    (hc : c ∈ written) : ∃ x ∈ word, sameLetter x c = true := by
  induction h with
  | nil => simp at hc
  | cons hx _ ih =>
    rcases List.mem_cons.1 hc with rfl | htail
    · exact ⟨_, List.mem_cons_self, hx⟩
    · obtain ⟨x, hmem, hsame⟩ := ih htail
      exact ⟨x, List.mem_cons_of_mem _ hmem, hsame⟩

/-- Every character of the word has a form in a spelling. -/
lemma Spells.exists_form {word written : List Char} (h : Spells word written) {x : Char}
    (hx : x ∈ word) : ∃ c ∈ written, sameLetter x c = true := by
  induction h with
  | nil => simp at hx
  | cons hsame _ ih =>
    rcases List.mem_cons.1 hx with rfl | htail
    · exact ⟨_, List.mem_cons_self, hsame⟩
    · obtain ⟨c, hmem, hform⟩ := ih htail
      exact ⟨c, List.mem_cons_of_mem _ hmem, hform⟩

/-- Every word spells itself. -/
lemma Spells.refl (word : List Char) : Spells word word :=
  List.forall₂_same.2 fun x _ => by simp [sameLetter]

/-- A plain spelling differs from its word by letter case only. -/
lemma Spells.map_toLower_eq {word written : List Char} (h : Spells word written)
    (hword : ∀ x ∈ word, isKeywordChar x = true) (hplain : IsPlain written) :
    written.map Char.toLower = word := by
  induction h with
  | nil => rfl
  | @cons x c xs cs hx _ ih =>
    have htail := ih (fun y hy => hword y (List.mem_cons_of_mem x hy))
      (fun d hd => hplain d (List.mem_cons_of_mem c hd))
    have hcode := hplain c List.mem_cons_self
    have hhead : c.toLower = x := by
      rcases cases_of_sameLetter_keywordChar (hword x List.mem_cons_self) hx with
        hown | rfl | rfl | rfl
      · exact hown
      · exact absurd hcode (by decide)
      · exact absurd hcode (by decide)
      · exact absurd hcode (by decide)
    rw [List.map_cons, hhead, htail]

/-- A spelling that is not plain is lower-cased to a text that is not plain either. -/
lemma Spells.not_isPlain_lower {word written : List Char} (h : Spells word written)
    (hword : ∀ x ∈ word, isKeywordChar x = true) (hplain : ¬ IsPlain written) :
    ¬ IsPlain (lower written) := by
  intro hlower
  apply hplain
  intro c hc
  by_contra hcode
  obtain ⟨x, hx, hsame⟩ := h.exists_sameLetter hc
  obtain ⟨afterCased, rest, hsub⟩ := exists_lowerAt_subset_lower hc
  rcases cases_of_sameLetter_keywordChar (hword x hx) hsame with hown | hforeign
  · -- a form that lowers to the character itself is plain, since the word is
    rw [toLower_eq_self (by omega)] at hown
    have := toNat_of_isKeywordChar (hword x hx)
    rw [hown] at hcode
    omega
  · obtain ⟨d, hd, hforeign⟩ := exists_foreign_lowerAt hforeign afterCased rest
    have := hlower d (hsub hd)
    omega

/-- A spelling of a keyword is lower-cased to a given plain text exactly when it is plain and the
text is the keyword.

**Proof sketch.** A plain spelling is lower-cased character by character, which gives the keyword.
Any other one holds a foreign form of `s` or `i`, and that leaves a foreign character behind. -/
theorem Spells.lower_eq_iff {word written cs : List Char} (h : Spells word written)
    (hword : ∀ x ∈ word, isKeywordChar x = true) (hcs : IsPlain cs) :
    lower written = cs ↔ IsPlain written ∧ word = cs := by
  by_cases hplain : IsPlain written
  · rw [lower_eq_map hplain, h.map_toLower_eq hword hplain]
    simp [hplain]
  · have hlower := h.not_isPlain_lower hword hplain
    constructor
    · rintro rfl
      exact absurd hcs hlower
    · rintro ⟨hplain', -⟩
      exact absurd hplain' hplain

end SourceLint.Text
