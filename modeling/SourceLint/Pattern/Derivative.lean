import SourceLint.Pattern.Basic

set_option autoImplicit false

/-!
# Matching by derivatives

The derivative of a pattern by a character denotes what may still follow once that character has
been read. Reading a text character by character therefore turns a pattern into the pattern of what
is still missing, and a prefix of the text has been matched as soon as that pattern admits the
empty word. The number of steps is bounded by the length of the text, no alternative is ever
retried, and nothing more is read once no word is left.

## Main definitions

* `Pattern.nullable` — whether a pattern denotes the empty word.
* `Pattern.derivative` — what may follow after a character.
* `Pattern.acceptsPrefix` — whether some prefix of a text is a word of the pattern.
* `Pattern.occursIn` — whether some part of a text is a word of the pattern.

## Main results

* `Pattern.matches_nil_iff` — `nullable` decides the empty word.
* `Pattern.matches_derivative_iff` — a derivative denotes the words that complete the character.
* `Pattern.acceptsPrefix_iff` — a prefix is accepted exactly when one is a word of the pattern.
-/

namespace SourceLint.Pattern

/-- Whether a pattern denotes the empty word. -/
def nullable : Pattern → Bool
  | .never => false
  | .empty => true
  | .one _ => false
  | .alt p q => p.nullable || q.nullable
  | .seq p q => p.nullable && q.nullable
  | .star _ => true

/-- The union of two patterns, without a branch that denotes no word. -/
def either : Pattern → Pattern → Pattern
  | .never, q => q
  | p, .never => p
  | p, q => .alt p q

/-- The concatenation of two patterns; it denotes no word when the first one does not. -/
def followedBy : Pattern → Pattern → Pattern
  | .never, _ => .never
  | .empty, q => q
  | p, q => .seq p q

/-- What may follow after a character has been read. -/
def derivative : Pattern → Char → Pattern
  | .never, _ => .never
  | .empty, _ => .never
  | .one cls, c => if cls.contains c then .empty else .never
  | .alt p q, c => (p.derivative c).either (q.derivative c)
  | .seq p q, c =>
    let rest := (p.derivative c).followedBy q
    if p.nullable then rest.either (q.derivative c) else rest
  | .star p, c => (p.derivative c).followedBy (.star p)

/-- Whether a pattern is the one that denotes no word. -/
def isNever : Pattern → Bool
  | .never => true
  | _ => false

/-- Whether some prefix of a text is a word of the pattern. Reading stops as soon as no word can be
completed any more. -/
def acceptsPrefix (p : Pattern) : List Char → Bool
  | [] => p.nullable
  | c :: cs => p.nullable || (!p.isNever && (p.derivative c).acceptsPrefix cs)

/-- Whether some part of a text is a word of the pattern. -/
def occursIn (p : Pattern) : List Char → Bool
  | [] => p.nullable
  | c :: cs => p.acceptsPrefix (c :: cs) || p.occursIn cs

/-! ### The words of the basic patterns -/

/-- No text matches the pattern that matches nothing. -/
@[simp] theorem matches_never_iff {w : List Char} : Matches .never w ↔ False :=
  ⟨nofun, nofun⟩

/-- Only the empty text matches the empty pattern. -/
@[simp] theorem matches_empty_iff {w : List Char} : Matches .empty w ↔ w = [] :=
  ⟨fun | .empty => rfl, fun h => h ▸ .empty⟩

/-- The texts of one character of a class. -/
theorem matches_one_iff {cls : CharClass} {w : List Char} :
    Matches (.one cls) w ↔ ∃ c, cls.contains c = true ∧ w = [c] :=
  ⟨fun | .one h => ⟨_, h, rfl⟩, fun ⟨_, h, hw⟩ => hw ▸ .one h⟩

/-- An alternative matches what one of its sides matches. -/
theorem matches_alt_iff {p q : Pattern} {w : List Char} :
    Matches (.alt p q) w ↔ Matches p w ∨ Matches q w :=
  ⟨fun | .altLeft h => .inl h | .altRight h => .inr h, fun h => h.elim .altLeft .altRight⟩

/-- A sequence matches a text for the first pattern before one for the second. -/
theorem matches_seq_iff {p q : Pattern} {w : List Char} :
    Matches (.seq p q) w ↔ ∃ u v, w = u ++ v ∧ Matches p u ∧ Matches q v :=
  ⟨fun | .seq hp hq => ⟨_, _, rfl, hp, hq⟩, fun ⟨_, _, hw, hp, hq⟩ => hw ▸ .seq hp hq⟩

/-- The simplified alternative matches what the alternative does. -/
theorem matches_either_iff {p q : Pattern} {w : List Char} :
    Matches (p.either q) w ↔ Matches p w ∨ Matches q w := by
  unfold either
  split <;> simp [matches_alt_iff]

/-- The simplified sequence matches what the sequence does. -/
theorem matches_followedBy_iff {p q : Pattern} {w : List Char} :
    Matches (p.followedBy q) w ↔ ∃ u v, w = u ++ v ∧ Matches p u ∧ Matches q v := by
  unfold followedBy
  split
  · simp
  · constructor
    · intro h
      exact ⟨[], w, rfl, .empty, h⟩
    · rintro ⟨u, v, rfl, hu, hv⟩
      rw [matches_empty_iff] at hu
      simpa [hu] using hv
  · exact matches_seq_iff

/-! ### The empty word and the first character -/

/-- `nullable` decides whether the empty word is denoted. -/
theorem matches_nil_iff {p : Pattern} : Matches p [] ↔ p.nullable = true := by
  induction p with
  | never => simp [nullable]
  | empty => simp [nullable]
  | one cls => simp [nullable, matches_one_iff]
  | alt p q ihp ihq => simp [nullable, matches_alt_iff, ihp, ihq]
  | seq p q ihp ihq =>
    rw [matches_seq_iff, nullable, Bool.and_eq_true, ← ihp, ← ihq]
    constructor
    · rintro ⟨u, v, huv, hu, hv⟩
      obtain ⟨rfl, rfl⟩ := List.append_eq_nil_iff.1 huv.symm
      exact ⟨hu, hv⟩
    · rintro ⟨hu, hv⟩
      exact ⟨[], [], rfl, hu, hv⟩
  | star p _ => simpa [nullable] using Matches.starNil

/-- A non-empty word of a repetition starts with a non-empty word of the repeated pattern. -/
theorem exists_of_matches_star_cons {p : Pattern} {c : Char} {w : List Char}
    (h : Matches (.star p) (c :: w)) :
    ∃ u v, w = u ++ v ∧ Matches p (c :: u) ∧ Matches (.star p) v := by
  generalize hr : Pattern.star p = r at h
  generalize ht : c :: w = t at h
  induction h with
  | starNil => simp at ht
  | @starCons q u v hu hv _ ih =>
    cases hr
    cases u with
    | nil => exact ih rfl ht
    | cons d u =>
      obtain ⟨rfl, rfl⟩ := List.cons_eq_cons.1 ht
      exact ⟨u, v, rfl, hu, hv⟩
  | _ => simp at hr

/-- A derivative denotes exactly the words that complete the character to a word of the
pattern. -/
theorem matches_derivative_iff {p : Pattern} {c : Char} {w : List Char} :
    Matches (p.derivative c) w ↔ Matches p (c :: w) := by
  induction p generalizing w with
  | never => simp [derivative]
  | empty => simp [derivative]
  | one cls =>
    rw [derivative, matches_one_iff]
    by_cases hc : cls.contains c = true
    · rw [if_pos hc, matches_empty_iff]
      simp only [List.cons.injEq]
      constructor
      · intro hw
        exact ⟨c, hc, rfl, hw⟩
      · rintro ⟨_, _, _, hw⟩
        exact hw
    · rw [if_neg hc, matches_never_iff, false_iff]
      simp only [List.cons.injEq]
      rintro ⟨d, hd, rfl, _⟩
      exact hc hd
  | alt p q ihp ihq => simp [derivative, matches_either_iff, matches_alt_iff, ihp, ihq]
  | seq p q ihp ihq =>
    have hsplit : Matches (.seq p q) (c :: w) ↔
        (∃ u v, w = u ++ v ∧ Matches p (c :: u) ∧ Matches q v) ∨
          (Matches p [] ∧ Matches q (c :: w)) := by
      rw [matches_seq_iff]
      constructor
      · rintro ⟨u, v, huv, hu, hv⟩
        cases u with
        | nil => exact .inr ⟨hu, by simpa [huv] using hv⟩
        | cons d u =>
          obtain ⟨rfl, rfl⟩ := List.cons_eq_cons.1 huv
          exact .inl ⟨u, v, rfl, hu, hv⟩
      · rintro (⟨u, v, rfl, hu, hv⟩ | ⟨hu, hv⟩)
        · exact ⟨c :: u, v, rfl, hu, hv⟩
        · exact ⟨[], c :: w, rfl, hu, hv⟩
    rw [hsplit, derivative]
    by_cases hp : p.nullable = true
    · simp [hp, matches_either_iff, matches_followedBy_iff, ihp, ihq, matches_nil_iff]
    · simp [hp, matches_followedBy_iff, ihp, matches_nil_iff]
  | star p ih =>
    rw [derivative, matches_followedBy_iff]
    constructor
    · rintro ⟨u, v, rfl, hu, hv⟩
      exact .starCons (ih.1 hu) hv
    · intro h
      obtain ⟨u, v, rfl, hu, hv⟩ := exists_of_matches_star_cons h
      exact ⟨u, v, rfl, ih.2 hu, hv⟩

/-- A pattern that matches something is not the one that matches nothing. -/
theorem isNever_eq_false_of_matches {p : Pattern} {w : List Char} (h : Matches p w) :
    p.isNever = false := by
  cases h <;> rfl

/-- A prefix of a text is accepted exactly when one is a word of the pattern. -/
theorem acceptsPrefix_iff {p : Pattern} {cs : List Char} :
    p.acceptsPrefix cs = true ↔ ∃ u v, cs = u ++ v ∧ Matches p u := by
  induction cs generalizing p with
  | nil =>
    rw [acceptsPrefix, ← matches_nil_iff]
    constructor
    · intro h
      exact ⟨[], [], rfl, h⟩
    · rintro ⟨u, v, huv, hu⟩
      obtain ⟨rfl, rfl⟩ := List.append_eq_nil_iff.1 huv.symm
      exact hu
  | cons c cs ih =>
    rw [acceptsPrefix, Bool.or_eq_true, Bool.and_eq_true, ih, ← matches_nil_iff]
    constructor
    · rintro (h | ⟨_, u, v, rfl, hu⟩)
      · exact ⟨[], c :: cs, rfl, h⟩
      · exact ⟨c :: u, v, rfl, matches_derivative_iff.1 hu⟩
    · rintro ⟨u, v, huv, hu⟩
      cases u with
      | nil => exact .inl hu
      | cons d u =>
        obtain ⟨rfl, rfl⟩ := List.cons_eq_cons.1 huv
        refine .inr ⟨?_, u, v, rfl, matches_derivative_iff.2 hu⟩
        simp [isNever_eq_false_of_matches hu]

end SourceLint.Pattern
