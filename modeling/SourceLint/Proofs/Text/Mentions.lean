import Mathlib.Data.List.Basic
import Mathlib.Data.List.Induction

set_option autoImplicit false

/-!
# First mentions

Names may be mentioned several times where only the first mention counts. They are then listed
without repetitions, in the order in which they come up, which is what is left when every mention
but the first one is left out.

## Main definitions

* `Text.IsFirstMentions` — a list of what is mentioned, in the order of first mention.

## Main results

* `Text.IsFirstMentions.nodup` — nothing is listed twice.
* `Text.eraseDups_concat_of_mem`, `Text.eraseDups_concat_of_not_mem` — one more mention.
* `Text.isFirstMentions_eraseDups` — leaving out repetitions gives the first mentions.
-/

namespace SourceLint.Text

variable {α : Type} [BEq α] [LawfulBEq α]

/-- A list of all that is mentioned, in the order of first mention. -/
structure IsFirstMentions (mentions listed : List α) : Prop where
  /-- What is mentioned is listed, and nothing else. -/
  mem_iff : ∀ x, x ∈ listed ↔ x ∈ mentions
  /-- What is listed first was mentioned first. -/
  order : listed.Pairwise fun x y => mentions.idxOf x < mentions.idxOf y

omit [LawfulBEq α] in
/-- Nothing is listed twice. -/
lemma IsFirstMentions.nodup {mentions listed : List α} (h : IsFirstMentions mentions listed) :
    listed.Nodup := by
  refine h.order.imp ?_
  rintro x _ hlt rfl
  exact Nat.lt_irrefl _ hlt

/-- A repeated mention is left out. -/
lemma eraseDups_concat_of_mem {xs : List α} {x : α} (h : x ∈ xs) :
    (xs ++ [x]).eraseDups = xs.eraseDups := by
  rw [List.eraseDups_append, List.removeAll, List.filter_cons_of_neg (by simpa using h)]
  simp

/-- A new mention comes last. -/
lemma eraseDups_concat_of_not_mem {xs : List α} {x : α} (h : x ∉ xs) :
    (xs ++ [x]).eraseDups = xs.eraseDups ++ [x] := by
  rw [List.eraseDups_append, List.removeAll, List.filter_cons_of_pos (by simpa using h),
    List.eraseDups_cons]
  simp

/-- **Leaving out repetitions gives the first mentions.**

**Proof sketch.** Induction from the end. One more mention changes no place of what was mentioned
before, and a new name is mentioned behind all others. -/
lemma isFirstMentions_eraseDups (xs : List α) : IsFirstMentions xs xs.eraseDups := by
  refine ⟨fun x => List.mem_eraseDups, ?_⟩
  induction xs using List.reverseRecOn with
  | nil => simp
  | append_singleton xs x ih =>
    have hold : ∀ y ∈ xs, (xs ++ [x]).idxOf y = xs.idxOf y :=
      fun y hy => List.idxOf_append_of_mem hy
    have hxs : xs.eraseDups.Pairwise fun y z => (xs ++ [x]).idxOf y < (xs ++ [x]).idxOf z := by
      refine ih.imp_of_mem fun {y z} hy hz hlt => ?_
      rwa [hold y (List.mem_eraseDups.1 hy), hold z (List.mem_eraseDups.1 hz)]
    by_cases hx : x ∈ xs
    · rwa [eraseDups_concat_of_mem hx]
    · rw [eraseDups_concat_of_not_mem hx, List.pairwise_append]
      refine ⟨hxs, List.pairwise_singleton _ _, fun y hy z hz => ?_⟩
      obtain rfl := List.mem_singleton.1 hz
      have hmem := List.mem_eraseDups.1 hy
      have hlt := List.idxOf_lt_length_iff.2 hmem
      rw [hold y hmem, List.idxOf_append_of_notMem hx]
      omega

/-- Without repetitions, every member is left once. -/
lemma nodup_eraseDups (xs : List α) : xs.eraseDups.Nodup :=
  (isFirstMentions_eraseDups xs).nodup

/-- Where nothing is repeated, nothing is left out. -/
lemma eraseDups_of_nodup {xs : List α} (h : xs.Nodup) : xs.eraseDups = xs := by
  induction xs using List.reverseRecOn with
  | nil => rfl
  | append_singleton xs x ih =>
    obtain ⟨hxs, -, hnew⟩ := List.nodup_append.1 h
    have hx : x ∉ xs := fun hmem => hnew x hmem x (List.mem_singleton_self x) rfl
    rw [eraseDups_concat_of_not_mem hx, ih hxs]

end SourceLint.Text
