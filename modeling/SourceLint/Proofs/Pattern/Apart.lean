import SourceLint.Pattern.Derivative
import SourceLint.Proofs.Text.Letters

set_option autoImplicit false

/-!
# Patterns that exclude each other

Two patterns exclude each other when no text starts with a word of both. Whether they do is found
out by reading all texts at once: a pattern is told by its heads, each of which is a class of first
characters with the pattern of what follows. A text that starts with a word of both patterns takes
one head of each at every character, and these have the character in common. So the patterns exclude
each other if neither denotes the empty word, and if what follows does so for any two heads whose
classes overlap.

The search ends after a number of characters. Heads that lead back to the patterns they are taken
from, as blanks do in front of a phrase, need not be followed: a text that is excluded only further
on is excluded there.

## Main definitions

* `CharClass.overlaps` — whether two classes may have a character in common.
* `Pattern.heads` — the first characters of a pattern, with what follows them.
* `Pattern.Excludes` — no text starts with a word of both patterns.
* `Pattern.apart` — a search for a text that does.

## Main results

* `Pattern.matches_cons_iff` — the words of a pattern by its heads.
* `Pattern.excludes_of_apart` — a search that finds nothing.
-/

namespace SourceLint

/-! ### Characters -/

namespace Text

variable {x y c : Char}

/-- A character that is not of seven bits is no lower-case form of another one. -/
lemma eq_of_toLower_eq (hc : 128 ≤ c.toNat) (h : x.toLower = c) : x = c := by
  by_cases hx : x.isUpper = true
  · have hlower : c.isLower = true := by
      rw [← h, Char.isLower_toLower_eq_isAlpha, Char.isAlpha, hx, Bool.true_or]
    rw [isLower_iff] at hlower
    omega
  · rw [← h, Char.toLower_eq_of_not_isUpper hx]

/-- Of two characters with a common form, one is a form of the other. -/
lemma sameLetter_of_common (hx : sameLetter x c = true) (hy : sameLetter y c = true) :
    sameLetter x y = true ∨ sameLetter y x = true := by
  have hequal : x.toLower = y.toLower → sameLetter x y = true := by
    intro heq
    simp [sameLetter, heq]
  -- a form of another script is the form of a letter, or stands for itself
  have hforeign : ∀ {z : Char}, 128 ≤ c.toNat → c.toLower = z.toLower → z = c := by
    intro z hc hz
    exact eq_of_toLower_eq hc (hz.symm.trans (toLower_eq_self (by omega)))
  by_cases hc : 128 ≤ c.toNat
  · rcases cases_of_sameLetter hx with hown | hx
    · exact .inr (hforeign hc hown ▸ hy)
    rcases cases_of_sameLetter hy with hown | hy
    · exact .inl (hforeign hc hown ▸ ‹sameLetter x c = true›)
    refine .inl (hequal ?_)
    grind
  · have hown : ∀ {z : Char}, sameLetter z c = true → c.toLower = z.toLower := by
      intro z hz
      rcases cases_of_sameLetter hz with hown | ⟨-, rfl⟩ | ⟨-, rfl⟩ | ⟨-, rfl | rfl⟩
      · exact hown
      all_goals exact absurd (by decide) hc
    exact .inl (hequal ((hown hx).symm.trans (hown hy)))

/-- A form of a character is blank only if it is that character itself. -/
lemma isBlank_of_sameLetter (hx : sameLetter x c = true) (hc : isBlank c = true) :
    x.isAlpha = false ∧ isBlank x = true := by
  have halpha : x.isAlpha = false := by
    rw [Bool.eq_false_iff]
    intro halpha
    rcases cases_of_sameLetter hx with hown | ⟨-, rfl⟩ | ⟨-, rfl⟩ | ⟨-, rfl | rfl⟩
    · rw [← Char.isLower_toLower_eq_isAlpha, ← hown, Char.isLower_toLower_eq_isAlpha, Char.isAlpha,
        Bool.or_eq_true, isUpper_iff, isLower_iff] at halpha
      rw [isBlank_eq_false (by omega)] at hc
      cases hc
    all_goals exact absurd hc (by decide)
  exact ⟨halpha, eq_of_sameLetter halpha hx ▸ hc⟩

end Text

namespace CharClass

variable {cls other : CharClass} {c : Char}

/-- Whether a class may hold a form of a letter. -/
def mayHoldForm (x : Char) : CharClass → Bool
  | .exactly y => Text.sameLetter x y
  | .letter y => Text.sameLetter x y || Text.sameLetter y x
  | .oneOf ys => ys.any (Text.sameLetter x)
  | .blank => !x.isAlpha && Text.isBlank x
  | .digit | .word => true

/-- A class that holds a form of a letter may do so. -/
lemma mayHoldForm_of_contains {x : Char} (hx : Text.sameLetter x c = true)
    (h : cls.contains c = true) : cls.mayHoldForm x = true := by
  cases cls with
  | exactly y =>
    obtain rfl : c = y := eq_of_beq h
    exact hx
  | letter y => simpa [mayHoldForm] using Text.sameLetter_of_common hx h
  | oneOf ys => exact List.any_eq_true.2 ⟨c, List.contains_iff_mem.1 h, hx⟩
  | blank => simpa [mayHoldForm] using Text.isBlank_of_sameLetter hx h
  | digit => rfl
  | word => rfl

/-- Whether two classes may have a character in common. Two classes of many characters are taken to
have one. -/
def overlaps (cls other : CharClass) : Bool :=
  match cls with
  | .exactly x => other.contains x
  | .oneOf xs => xs.any other.contains
  | .letter x => other.mayHoldForm x
  | .blank | .digit | .word =>
    match other with
    | .exactly y => cls.contains y
    | .oneOf ys => ys.any cls.contains
    | .letter y => cls.mayHoldForm y
    | .blank | .digit | .word => true

/-- Classes that have a character in common may have one. -/
lemma overlaps_of_contains (hcls : cls.contains c = true) (hother : other.contains c = true) :
    cls.overlaps other = true := by
  cases cls with
  | exactly x =>
    obtain rfl : c = x := eq_of_beq hcls
    exact hother
  | oneOf xs => exact List.any_eq_true.2 ⟨c, List.contains_iff_mem.1 hcls, hother⟩
  | letter x => exact mayHoldForm_of_contains hcls hother
  | blank | digit | word =>
    cases other with
    | exactly y =>
      obtain rfl : c = y := eq_of_beq hother
      exact hcls
    | oneOf ys => exact List.any_eq_true.2 ⟨c, List.contains_iff_mem.1 hother, hcls⟩
    | letter y => exact mayHoldForm_of_contains hother hcls
    | blank | digit | word => rfl

end CharClass

namespace Pattern

variable {p q : Pattern} {c : Char} {w cs : List Char} {fuel : Nat}

/-! ### Heads -/

/-- The classes of first characters of a pattern, each with the pattern of what follows. -/
def heads : Pattern → List (CharClass × Pattern)
  | .never => []
  | .empty => []
  | .one cls => [(cls, .empty)]
  | .alt p q => p.heads ++ q.heads
  | .seq p q =>
    let first := p.heads.map fun head => (head.1, head.2.followedBy q)
    if p.nullable then first ++ q.heads else first
  | .star p => p.heads.map fun head => (head.1, head.2.followedBy (.star p))

/-- What follows the heads of a pattern when another pattern is put behind it. -/
lemma exists_mem_map_followedBy_iff {heads : List (CharClass × Pattern)} :
    (∃ head ∈ heads.map fun head => (head.1, head.2.followedBy q),
        head.1.contains c = true ∧ Matches head.2 w) ↔
      ∃ u v, w = u ++ v ∧ (∃ head ∈ heads, head.1.contains c = true ∧ Matches head.2 u) ∧
        Matches q v := by
  simp only [List.mem_map, exists_exists_and_eq_and, matches_followedBy_iff]
  constructor
  · rintro ⟨head, hhead, hc, u, v, rfl, hu, hv⟩
    exact ⟨u, v, rfl, ⟨head, hhead, hc, hu⟩, hv⟩
  · rintro ⟨u, v, rfl, ⟨head, hhead, hc, hu⟩, hv⟩
    exact ⟨head, hhead, hc, u, v, rfl, hu, hv⟩

/-- **The words of a pattern by its heads.** -/
lemma matches_cons_iff :
    Matches p (c :: w) ↔ ∃ head ∈ p.heads, head.1.contains c = true ∧ Matches head.2 w := by
  rw [← matches_derivative_iff]
  induction p generalizing w with
  | never => simp [derivative, heads]
  | empty => simp [derivative, heads]
  | one cls =>
    rw [derivative]
    split <;> simp_all [heads]
  | alt p q ihp ihq =>
    simp only [derivative, matches_either_iff, ihp, ihq, heads, List.mem_append, or_and_right,
      exists_or]
  | seq p q ihp ihq =>
    rw [derivative, heads]
    cases p.nullable with
    | false =>
      simp only [Bool.false_eq_true, if_false, matches_followedBy_iff, ihp,
        exists_mem_map_followedBy_iff]
    | true =>
      simp only [if_true, matches_either_iff, matches_followedBy_iff, ihp, ihq, List.mem_append,
        or_and_right, exists_or, exists_mem_map_followedBy_iff]
  | star p ih =>
    simp only [derivative, heads, matches_followedBy_iff, ih, exists_mem_map_followedBy_iff]

/-- What is left to be accepted behind the first character of a text. -/
lemma acceptsPrefix_cons_iff (hp : p.nullable = false) :
    p.acceptsPrefix (c :: cs) = true ↔
      ∃ head ∈ p.heads, head.1.contains c = true ∧ head.2.acceptsPrefix cs = true := by
  simp only [acceptsPrefix_iff]
  constructor
  · rintro ⟨u, v, huv, hu⟩
    cases u with
    | nil =>
      rw [matches_nil_iff, hp] at hu
      cases hu
    | cons d u =>
      obtain ⟨rfl, rfl⟩ := List.cons_eq_cons.1 huv
      obtain ⟨head, hhead, hc, hmatches⟩ := matches_cons_iff.1 hu
      exact ⟨head, hhead, hc, u, v, rfl, hmatches⟩
  · rintro ⟨head, hhead, hc, u, v, rfl, hmatches⟩
    exact ⟨c :: u, v, rfl, matches_cons_iff.2 ⟨head, hhead, hc, hmatches⟩⟩

/-! ### Exclusion -/

/-- No text starts with a word of both patterns. -/
def Excludes (p q : Pattern) : Prop :=
  ∀ cs, ¬ (p.acceptsPrefix cs = true ∧ q.acceptsPrefix cs = true)

/-- Exclusion is mutual. -/
lemma Excludes.symm (h : p.Excludes q) : q.Excludes p := fun cs hcs => h cs hcs.symm

/-- Whether no text is found that starts with a word of both patterns, by a search that looks at no
more than a number of characters. -/
def apart : Nat → Pattern → Pattern → Bool
  | 0, _, _ => false
  | fuel + 1, p, q =>
    !p.nullable && !q.nullable && p.heads.all fun head => q.heads.all fun other =>
      !head.1.overlaps other.1 || decide (head.2 = p ∧ other.2 = q) || apart fuel head.2 other.2

/-- **A search that finds nothing.**

**Proof sketch.** By induction on the number of characters that are looked at, and within it on the
text. A text that starts with a word of both patterns takes a head of each, and these have its first
character in common. So the rest of the text starts with words of what follows: either a search
through fewer characters has excluded this, or the patterns are the same as before, and the text is
shorter. -/
lemma excludes_of_apart (h : apart fuel p q = true) : p.Excludes q := by
  induction fuel generalizing p q with
  | zero => cases h
  | succ fuel ih =>
    simp only [apart, Bool.and_eq_true, Bool.not_eq_true', List.all_eq_true, Bool.or_eq_true,
      decide_eq_true_eq] at h
    obtain ⟨⟨hp, hq⟩, hheads⟩ := h
    intro cs
    induction cs with
    | nil => simp [acceptsPrefix, hp]
    | cons c cs ihText =>
      rintro ⟨hpText, hqText⟩
      obtain ⟨head, hhead, hc, hrest⟩ := (acceptsPrefix_cons_iff hp).1 hpText
      obtain ⟨other, hother, hc', hrest'⟩ := (acceptsPrefix_cons_iff hq).1 hqText
      have hoverlaps := CharClass.overlaps_of_contains hc hc'
      rcases hheads head hhead other hother with (hnone | ⟨hsame, hsame'⟩) | hapart
      · rw [hoverlaps] at hnone
        cases hnone
      · rw [hsame] at hrest
        rw [hsame'] at hrest'
        exact ihText ⟨hrest, hrest'⟩
      · exact ih hapart cs ⟨hrest, hrest'⟩

end Pattern

end SourceLint
