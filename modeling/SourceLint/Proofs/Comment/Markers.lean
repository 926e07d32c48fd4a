import Mathlib.Tactic.Lemma
import SourceLint.Comment.Keep

set_option autoImplicit false

/-!
# Markers as whole words

The search for a reserved marker goes through a text once and remembers only whether the character
before was part of a word. What it finds can be told from the words of the text: those are its
longest runs of word characters, and a text carries a marker when one of its words is the marker
itself. A marker inside of a longer word does not count, on whichever side the word goes on and
whatever the script of the letter or digit next to it.

## Main definitions

* `Comment.IsWordRun` — a run of word characters that goes on to neither side.
* `Comment.IsGlued` — a word character stands right before or right behind a place.

## Main results

* `Comment.hasMarkerFrom_iff` — what the search finds from a place in the text.
* `Comment.hasMarker_iff_wordRun` — markers are found as whole words, and only so.
-/

namespace SourceLint.Comment

/-- What stands between two parts of a text is a run of word characters that goes on to neither
side. -/
structure IsWordRun (before run after : List Char) : Prop where
  ne_nil : run ≠ []
  isWord : ∀ c ∈ run, Text.isWord c = true
  isWord_before : ∀ c ∈ before.getLast?, Text.isWord c = false
  isWord_after : ∀ c ∈ after.head?, Text.isWord c = false

/-- A word character stands right before or right behind a place between two parts of a text. -/
def IsGlued (before after : List Char) : Prop :=
  (∃ c ∈ before.getLast?, Text.isWord c = true) ∨ ∃ c ∈ after.head?, Text.isWord c = true

/-- Markers are words. -/
lemma isWord_of_mem_markers {marker : String} (h : marker ∈ markers) :
    marker.toList ≠ [] ∧ ∀ c ∈ marker.toList, Text.isWord c = true := by
  have hall : markers.all
      (fun marker => !marker.toList.isEmpty && marker.toList.all Text.isWord) = true := by decide
  have hmarker := List.all_eq_true.1 hall marker h
  rw [Bool.and_eq_true, Bool.not_eq_true', List.isEmpty_eq_false_iff] at hmarker
  exact ⟨hmarker.1, List.all_eq_true.1 hmarker.2⟩

/-- A word ends where no character of a word follows. -/
lemma endsWord_iff {cs : List Char} :
    endsWord cs = true ↔ ∀ c ∈ cs.head?, Text.isWord c = false := by
  cases cs <;> simp [endsWord]

/-- A text starts with a marker that is a word up to its end. -/
lemma startsWithMarker_iff {cs : List Char} :
    startsWithMarker cs = true ↔
      ∃ marker ∈ markers, ∃ after, cs = marker.toList ++ after ∧ endsWord after = true := by
  simp only [startsWithMarker, List.any_eq_true, Bool.and_eq_true, List.isPrefixOf_iff_prefix]
  constructor
  · rintro ⟨marker, hmarker, ⟨after, rfl⟩, hend⟩
    rw [List.drop_left] at hend
    exact ⟨marker, hmarker, after, rfl, hend⟩
  · rintro ⟨marker, hmarker, after, rfl, hend⟩
    refine ⟨marker, hmarker, List.prefix_append _ _, ?_⟩
    rwa [List.drop_left]

/-- Whether a word character stands behind a part of a text; `inWord` says so of the place where
that part starts. -/
def followsWord (inWord : Bool) (before : List Char) : Bool :=
  (before.getLast?.map Text.isWord).getD inWord

/-- Only the last character that was read tells whether a word goes on. -/
lemma followsWord_cons (inWord : Bool) (c : Char) (before : List Char) :
    followsWord inWord (c :: before) = followsWord (Text.isWord c) before := by
  simp only [followsWord, List.getLast?_cons]
  cases before.getLast? <;> rfl

/-- No word goes on behind a text that ends in no character of a word. -/
lemma followsWord_false_iff {before : List Char} :
    followsWord false before = false ↔ ∀ c ∈ before.getLast?, Text.isWord c = false := by
  unfold followsWord
  cases before.getLast? <;> simp

/-- **What the search finds from a place in the text**: a marker behind which the word ends, and
before which no word character stands.

**Proof sketch.** By induction on the text that is left. Either the marker stands here, or it is
found later; what the search remembers is then whether the first character is part of a word. -/
lemma hasMarkerFrom_iff {inWord : Bool} {cs : List Char} :
    hasMarkerFrom inWord cs = true ↔
      ∃ before, ∃ marker ∈ markers, ∃ after, cs = before ++ (marker.toList ++ after) ∧
        followsWord inWord before = false ∧ endsWord after = true := by
  induction cs generalizing inWord with
  | nil =>
    simp only [hasMarkerFrom, Bool.false_eq_true, false_iff]
    rintro ⟨before, marker, hmarker, after, hnil, -, -⟩
    have hword := (List.append_eq_nil_iff.1 (List.append_eq_nil_iff.1 hnil.symm).2).1
    exact (isWord_of_mem_markers hmarker).1 hword
  | cons c cs ih =>
    rw [hasMarkerFrom, Bool.or_eq_true, Bool.and_eq_true, Bool.not_eq_true', startsWithMarker_iff,
      ih]
    constructor
    · rintro (⟨hstart, marker, hmarker, after, heq, hend⟩ |
        ⟨before, marker, hmarker, after, rfl, hstart, hend⟩)
      · exact ⟨[], marker, hmarker, after, heq, hstart, hend⟩
      · rw [← followsWord_cons inWord] at hstart
        exact ⟨c :: before, marker, hmarker, after, rfl, hstart, hend⟩
    · rintro ⟨before, marker, hmarker, after, heq, hstart, hend⟩
      cases before with
      | nil => exact .inl ⟨hstart, marker, hmarker, after, heq, hend⟩
      | cons d before =>
        obtain ⟨rfl, rfl⟩ := List.cons_eq_cons.1 heq
        rw [followsWord_cons] at hstart
        exact .inr ⟨before, marker, hmarker, after, rfl, hstart, hend⟩

/-- A marker is a run of word characters that goes on to neither side when it is not glued. -/
lemma isWordRun_marker_iff {marker : String} (h : marker ∈ markers) {before after : List Char} :
    IsWordRun before marker.toList after ↔
      followsWord false before = false ∧ endsWord after = true := by
  obtain ⟨hne, hword⟩ := isWord_of_mem_markers h
  rw [followsWord_false_iff, endsWord_iff]
  constructor
  · intro hrun
    exact ⟨hrun.isWord_before, hrun.isWord_after⟩
  · rintro ⟨hbefore, hafter⟩
    exact ⟨hne, hword, hbefore, hafter⟩

/-- A marker in a text is a whole run of word characters unless it is glued on either side. -/
lemma isWordRun_marker_iff_not_isGlued {marker : String} (h : marker ∈ markers)
    {before after : List Char} :
    IsWordRun before marker.toList after ↔ ¬ IsGlued before after := by
  rw [isWordRun_marker_iff h, followsWord_false_iff, endsWord_iff, IsGlued, not_or]
  simp

/-- **Markers are found as whole words, and only so.** A text carries a marker exactly when one of
its longest runs of word characters is a marker, letter by letter and in capitals. So the text
carries one exactly when some marker stands in it that is not glued to a word character, be it
before or behind.

**Proof sketch.** Markers consist of word characters, so a place where a marker stands is a longest
run exactly when no word character stands on either side of it. The search finds such places
(`hasMarkerFrom_iff`). -/
theorem hasMarker_iff_wordRun (text : List Char) :
    (hasMarker text = true ↔
      ∃ before run after, text = before ++ run ++ after ∧ IsWordRun before run after ∧
        String.ofList run ∈ markers) ∧
    (hasMarker text = true ↔
      ∃ before, ∃ marker ∈ markers, ∃ after, text = before ++ marker.toList ++ after ∧
        ¬ IsGlued before after) := by
  have hfound : hasMarker text = true ↔ ∃ before, ∃ marker ∈ markers, ∃ after,
      text = before ++ marker.toList ++ after ∧ IsWordRun before marker.toList after := by
    rw [hasMarker, hasMarkerFrom_iff]
    constructor
    · rintro ⟨before, marker, hmarker, after, rfl, hplace⟩
      exact ⟨before, marker, hmarker, after, by simp, (isWordRun_marker_iff hmarker).2 hplace⟩
    · rintro ⟨before, marker, hmarker, after, rfl, hrun⟩
      exact ⟨before, marker, hmarker, after, by simp, (isWordRun_marker_iff hmarker).1 hrun⟩
  constructor
  · rw [hfound]
    constructor
    · rintro ⟨before, marker, hmarker, after, heq, hrun⟩
      exact ⟨before, marker.toList, after, heq, hrun, by rwa [String.ofList_toList]⟩
    · rintro ⟨before, run, after, heq, hrun, hmarker⟩
      exact ⟨before, _, hmarker, after, by simpa using heq, by simpa using hrun⟩
  · rw [hfound]
    constructor
    · rintro ⟨before, marker, hmarker, after, heq, hrun⟩
      exact ⟨before, marker, hmarker, after, heq, (isWordRun_marker_iff_not_isGlued hmarker).1 hrun⟩
    · rintro ⟨before, marker, hmarker, after, heq, hglued⟩
      exact ⟨before, marker, hmarker, after, heq,
        (isWordRun_marker_iff_not_isGlued hmarker).2 hglued⟩

/-- A combining mark ends a word, a letter of another script does not. -/
example :
    hasMarker "see BUG\u0301 below".toList = true ∧ hasMarker "see éBUG_ below".toList = false := by
  decide +kernel

end SourceLint.Comment
