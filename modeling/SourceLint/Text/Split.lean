set_option autoImplicit false

/-!
# Splitting a text

A text is cut at its separators. Neighbouring separators leave an empty piece between them, and
`n` separators always give `n + 1` pieces; whoever wants words rather than fields drops the empty
pieces.

## Main definitions

* `Text.splitWhere` — the pieces of a text between separators.
* `Text.wordsWhere` — the non-empty ones among them.
* `Text.joinWith` — pieces put together with a separator between them.

## Main results

* `Text.length_splitWhere` — one piece more than there are separators.
* `Text.not_mem_of_mem_splitWhere` — no piece holds a separator.
* `Text.isInfix_of_mem_splitWhere` — every piece is a part of the text.
* `Text.exists_splitWhere_eq_cons` — the first piece ends at the first separator.
* `Text.splitWhere_append_cons`, `Text.wordsWhere_append_cons` — what stands on either side of a
  separator is split separately.
* `Text.splitWhere_eq_singleton`, `Text.wordsWhere_eq_singleton` — a text without separators is
  one piece.
-/

namespace SourceLint.Text

/-- The pieces of a text between its separators, empty ones included. -/
def splitWhere (isSeparator : Char → Bool) : List Char → List (List Char)
  | [] => [[]]
  | c :: cs =>
    if isSeparator c then [] :: splitWhere isSeparator cs
    else
      match splitWhere isSeparator cs with
      | [] => [[c]]
      | piece :: pieces => (c :: piece) :: pieces

/-- The non-empty pieces of a text between its separators. -/
def wordsWhere (isSeparator : Char → Bool) (cs : List Char) : List (List Char) :=
  (splitWhere isSeparator cs).filter fun piece => !piece.isEmpty

/-- The pieces of a string between the occurrences of a character. -/
def splitString (separator : Char) (s : String) : List String :=
  (splitWhere (· == separator) s.toList).map String.ofList

/-- Strings put together with a separator between neighbours. -/
def joinWith (separator : String) : List String → String
  | [] => ""
  | [s] => s
  | s :: rest => s ++ separator ++ joinWith separator rest

/-- Splitting gives at least one piece. -/
theorem splitWhere_ne_nil (isSeparator : Char → Bool) (cs : List Char) :
    splitWhere isSeparator cs ≠ [] := by
  cases cs with
  | nil => simp [splitWhere]
  | cons c cs =>
    rw [splitWhere]
    split
    · simp
    · split <;> simp

/-- Splitting gives one piece more than there are separators. -/
theorem length_splitWhere (isSeparator : Char → Bool) (cs : List Char) :
    (splitWhere isSeparator cs).length = cs.countP isSeparator + 1 := by
  induction cs with
  | nil => rfl
  | cons c cs ih =>
    rw [splitWhere]
    split
    · rename_i h
      simp [ih, h]
    · rename_i h
      split
      · rename_i hnil
        exact absurd hnil (splitWhere_ne_nil _ _)
      · rename_i piece pieces hcons
        rw [hcons] at ih
        simpa [h] using ih

/-- The pieces on either side of a separator are found separately. -/
theorem splitWhere_append_cons {isSeparator : Char → Bool} {c : Char}
    (hc : isSeparator c = true) (xs ys : List Char) :
    splitWhere isSeparator (xs ++ c :: ys) =
      splitWhere isSeparator xs ++ splitWhere isSeparator ys := by
  induction xs with
  | nil => simp [splitWhere, hc]
  | cons x xs ih =>
    rw [List.cons_append, splitWhere, splitWhere, ih]
    split
    · rw [List.cons_append]
    · cases hxs : splitWhere isSeparator xs with
      | nil => exact absurd hxs (splitWhere_ne_nil _ _)
      | cons piece pieces => rfl

/-- No piece holds a separator. -/
theorem not_mem_of_mem_splitWhere {isSeparator : Char → Bool} {cs piece : List Char}
    (hpiece : piece ∈ splitWhere isSeparator cs) {c : Char} (hc : c ∈ piece) :
    isSeparator c = false := by
  induction cs generalizing piece with
  | nil =>
    simp only [splitWhere, List.mem_singleton] at hpiece
    simp [hpiece] at hc
  | cons d cs ih =>
    rw [splitWhere] at hpiece
    split at hpiece
    · rcases List.mem_cons.1 hpiece with rfl | hrest
      · simp at hc
      · exact ih hrest hc
    · rename_i hd
      split at hpiece
      · rename_i hnil
        exact absurd hnil (splitWhere_ne_nil _ _)
      · rename_i first rest hcons
        rw [hcons] at ih
        rcases List.mem_cons.1 hpiece with rfl | hrest
        · rcases List.mem_cons.1 hc with rfl | htail
          · simpa using hd
          · exact ih (List.mem_cons_self ..) htail
        · exact ih (List.mem_cons_of_mem _ hrest) hc

/-- The first piece of a text is what stands before its first separator. -/
theorem exists_splitWhere_eq_cons (isSeparator : Char → Bool) (cs : List Char) :
    ∃ others, splitWhere isSeparator cs = (cs.takeWhile fun c => !isSeparator c) :: others := by
  induction cs with
  | nil => exact ⟨[], rfl⟩
  | cons c cs ih =>
    obtain ⟨others, hothers⟩ := ih
    by_cases hc : isSeparator c = true
    · exact ⟨splitWhere isSeparator cs, by simp [splitWhere, hc]⟩
    · exact ⟨others, by simp [splitWhere, hc, hothers]⟩

/-- What stands in front of a text and holds no separator belongs to its first piece. -/
theorem splitWhere_append_of_eq_cons {isSeparator : Char → Bool} {xs ys first : List Char}
    {others : List (List Char)} (hxs : ∀ c ∈ xs, isSeparator c = false)
    (hys : splitWhere isSeparator ys = first :: others) :
    splitWhere isSeparator (xs ++ ys) = (xs ++ first) :: others := by
  induction xs with
  | nil => exact hys
  | cons x xs ih =>
    have htail := ih fun c hc => hxs c (List.mem_cons_of_mem x hc)
    simp [splitWhere, hxs x List.mem_cons_self, htail]

/-- Every piece of a text is a part of it. -/
theorem isInfix_of_mem_splitWhere {isSeparator : Char → Bool} {cs piece : List Char}
    (h : piece ∈ splitWhere isSeparator cs) : piece <:+: cs := by
  induction cs generalizing piece with
  | nil =>
    obtain rfl : piece = [] := by simpa [splitWhere] using h
    exact List.infix_rfl
  | cons c cs ih =>
    obtain ⟨others, hothers⟩ := exists_splitWhere_eq_cons isSeparator cs
    have hfirst := List.takeWhile_prefix (l := cs) fun c => !isSeparator c
    rw [splitWhere, hothers] at h
    rw [hothers] at ih
    split at h
    · rcases List.mem_cons.1 h with rfl | hmem
      · exact List.nil_infix
      · exact (ih hmem).trans (List.suffix_cons c cs).isInfix
    · rcases List.mem_cons.1 h with rfl | hmem
      · exact (List.cons_prefix_cons.2 ⟨rfl, hfirst⟩).isInfix
      · exact (ih (List.mem_cons_of_mem _ hmem)).trans (List.suffix_cons c cs).isInfix

/-- A text without separators is one piece. -/
theorem splitWhere_eq_singleton {isSeparator : Char → Bool} {cs : List Char}
    (h : ∀ c ∈ cs, isSeparator c = false) : splitWhere isSeparator cs = [cs] := by
  induction cs with
  | nil => rfl
  | cons c cs ih =>
    rw [splitWhere, h c List.mem_cons_self, ih fun d hd => h d (List.mem_cons_of_mem c hd)]
    rfl

/-- Every character is a separator or stands in a piece. -/
theorem exists_mem_splitWhere_of_mem {isSeparator : Char → Bool} {cs : List Char} {c : Char}
    (hc : c ∈ cs) (hsep : isSeparator c = false) :
    ∃ piece ∈ splitWhere isSeparator cs, c ∈ piece := by
  induction cs with
  | nil => simp at hc
  | cons d cs ih =>
    rw [splitWhere]
    split
    · rename_i hd
      rcases List.mem_cons.1 hc with rfl | htail
      · simp [hd] at hsep
      · obtain ⟨piece, hpiece, hmem⟩ := ih htail
        exact ⟨piece, List.mem_cons_of_mem _ hpiece, hmem⟩
    · split
      · rename_i hnil
        exact absurd hnil (splitWhere_ne_nil _ _)
      · rename_i first rest hcons
        rw [hcons] at ih
        rcases List.mem_cons.1 hc with rfl | htail
        · exact ⟨c :: first, List.mem_cons_self, List.mem_cons_self⟩
        · obtain ⟨piece, hpiece, hmem⟩ := ih htail
          rcases List.mem_cons.1 hpiece with rfl | hrest
          · exact ⟨d :: piece, List.mem_cons_self, List.mem_cons_of_mem _ hmem⟩
          · exact ⟨piece, List.mem_cons_of_mem _ hrest, hmem⟩

/-- The words on either side of a separator are found separately. -/
theorem wordsWhere_append_cons {isSeparator : Char → Bool} {c : Char}
    (hc : isSeparator c = true) (xs ys : List Char) :
    wordsWhere isSeparator (xs ++ c :: ys) =
      wordsWhere isSeparator xs ++ wordsWhere isSeparator ys := by
  simp only [wordsWhere, splitWhere_append_cons hc, List.filter_append]

/-- A text without separators is one word, unless it is empty. -/
theorem wordsWhere_eq_singleton {isSeparator : Char → Bool} {cs : List Char} (hne : cs ≠ [])
    (h : ∀ c ∈ cs, isSeparator c = false) : wordsWhere isSeparator cs = [cs] := by
  simp [wordsWhere, splitWhere_eq_singleton h, hne]

end SourceLint.Text
