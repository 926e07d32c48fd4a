import Mathlib.Data.Set.NAry
import SourceLint.Pattern.Derivative
import SourceLint.Proofs.Text.Letters

set_option autoImplicit false

/-!
# The language of a pattern

A pattern is read as a formal language: a set of words, composed by union, concatenation and
repetition. In a union no alternative comes before another one, and nothing is said about which of
several words at the start of a text is taken. The words of a pattern are those that it matches, so
a text is accepted exactly when one of its prefixes is in the language.

Of the vocabulary in which patterns are written, each item has the language that its name says.

## Main definitions

* `Pattern.words` — the language of a pattern.

## Main results

* `Pattern.mem_words_iff` — the language is what the pattern matches.
* `Pattern.acceptsPrefix_iff_words` — acceptance by the language.
* `Pattern.mem_words_anyOf_iff`, `Pattern.mem_words_chain_iff` — the languages of the vocabulary.
-/

namespace SourceLint.Pattern

variable {p q : Pattern} {ps : List Pattern} {w : List Char}

/-- The language of a pattern. -/
def words : Pattern → Set (List Char)
  | .never => ∅
  | .empty => {[]}
  | .one cls => {w | ∃ c, cls.contains c = true ∧ w = [c]}
  | .alt p q => p.words ∪ q.words
  | .seq p q => Set.image2 (· ++ ·) p.words q.words
  | .star p => {w | ∃ pieces : List (List Char), (∀ piece ∈ pieces, piece ∈ p.words) ∧
      pieces.flatten = w}

/-! ### Languages and matching -/

/-- A repetition matches what is put together from words of the repeated pattern. -/
lemma matches_star_iff :
    Matches (.star p) w ↔
      ∃ pieces : List (List Char), (∀ piece ∈ pieces, Matches p piece) ∧ pieces.flatten = w := by
  constructor
  · intro h
    generalize hstar : Pattern.star p = r at h
    induction h with
    | starNil => exact ⟨[], by simp, rfl⟩
    | @starCons _ v w hv _ _ ih =>
      cases hstar
      obtain ⟨pieces, hpieces, rfl⟩ := ih rfl
      exact ⟨v :: pieces, List.forall_mem_cons.2 ⟨hv, hpieces⟩, rfl⟩
    | empty | one | altLeft | altRight | seq => cases hstar
  · rintro ⟨pieces, hpieces, rfl⟩
    induction pieces with
    | nil => exact .starNil
    | cons piece pieces ih =>
      obtain ⟨hpiece, hpieces⟩ := List.forall_mem_cons.1 hpieces
      exact .starCons hpiece (ih hpieces)

/-- **The language of a pattern is what it matches.** -/
lemma mem_words_iff : w ∈ p.words ↔ Matches p w := by
  induction p generalizing w with
  | never => simp [words]
  | empty => simp [words]
  | one cls => rw [matches_one_iff]; rfl
  | alt p q ihp ihq => simp [words, matches_alt_iff, ihp, ihq]
  | seq p q ihp ihq =>
    rw [matches_seq_iff, words, Set.mem_image2]
    simp only [ihp, ihq]
    constructor
    · rintro ⟨u, hu, v, hv, rfl⟩
      exact ⟨u, v, rfl, hu, hv⟩
    · rintro ⟨u, v, rfl, hu, hv⟩
      exact ⟨u, hu, v, hv, rfl⟩
  | star p ih => simp [words, matches_star_iff, ih]

/-- A text is accepted when it starts with a word of the language. -/
lemma acceptsPrefix_iff_words {cs : List Char} :
    p.acceptsPrefix cs = true ↔ ∃ word rest, cs = word ++ rest ∧ word ∈ p.words := by
  simp only [acceptsPrefix_iff, mem_words_iff]

/-! ### The vocabulary -/

/-- A word of any of the listed patterns. -/
lemma mem_words_anyOf_iff : w ∈ (anyOf ps).words ↔ ∃ p ∈ ps, w ∈ p.words := by
  fun_induction anyOf ps with
  | case1 => simp [words]
  | case2 p => simp
  | case3 p ps _ ih => simp [words, ih]

/-- Words of the listed patterns, one after the other. -/
lemma mem_words_chain_cons_iff :
    w ∈ (chain (p :: ps)).words ↔ ∃ u v, w = u ++ v ∧ u ∈ p.words ∧ v ∈ (chain ps).words := by
  cases ps with
  | nil => simp [chain, words]
  | cons q ps =>
    rw [chain, words, Set.mem_image2]
    · grind
    · simp

/-- A chain of classes, one for each of some characters. -/
lemma mem_words_chain_map_iff {cls : Char → CharClass} {cs : List Char} :
    w ∈ (chain (cs.map fun c => .one (cls c))).words ↔
      List.Forall₂ (fun x c => (cls x).contains c = true) cs w := by
  induction cs generalizing w with
  | nil => simp [chain, words]
  | cons c cs ih =>
    rw [List.map_cons, mem_words_chain_cons_iff, List.forall₂_cons_left_iff]
    constructor
    · rintro ⟨_, v, rfl, ⟨d, hd, rfl⟩, hv⟩
      exact ⟨d, v, hd, ih.1 hv, rfl⟩
    · rintro ⟨d, v, hd, hv, rfl⟩
      exact ⟨[d], v, rfl, ⟨d, hd, rfl⟩, ih.2 hv⟩

/-- The one word of a string that is taken as it stands. -/
lemma mem_words_exactText_iff {s : String} : w ∈ (exactText s).words ↔ w = s.toList := by
  have hequal : (fun x c => (CharClass.exactly x).contains c = true) = @Eq Char := by
    funext x c
    rw [CharClass.contains, beq_iff_eq]
    exact propext eq_comm
  rw [exactText, mem_words_chain_map_iff, hequal, List.forall₂_eq_eq_eq, eq_comm]

/-- Runs of blanks. -/
lemma mem_words_blanks_iff : w ∈ blanks.words ↔ ∀ c ∈ w, Text.isBlank c = true := by
  constructor
  · rintro ⟨pieces, hpieces, rfl⟩ c hc
    obtain ⟨piece, hpiece, hc⟩ := List.mem_flatten.1 hc
    obtain ⟨d, hd, rfl⟩ := hpieces piece hpiece
    rwa [List.mem_singleton.1 hc]
  · intro h
    refine ⟨w.map fun c => [c], fun piece hpiece => ?_, ?_⟩
    · obtain ⟨c, hc, rfl⟩ := List.mem_map.1 hpiece
      exact ⟨c, h c hc, rfl⟩
    · rw [← List.flatMap_def, List.flatMap_singleton']

end SourceLint.Pattern
