import SourceLint.Proofs.Rule.Phrases

set_option autoImplicit false

/-!
# Comments that go on

A rule judges a comment by its start, so a longer comment with the same start is judged alike. Two
things could stand in the way. The blanks at the end of a comment are left out before it is judged,
although some phrases end in a blank; but what is left of a comment that is found stays in front of
whatever is appended, and no phrase says how a comment has to end. And what is appended may be a
marker or a directive for a tool, which keep the comment. So keeping is the only way in which a
comment that is found can escape by getting longer.

## Main definitions

* `Source.CommentSpans` — a comment node spans a text.

## Main results

* `Text.strip_isPrefix_append` — a text without the blanks at its ends stays in front.
* `Pattern.acceptsPrefix_of_isPrefix` — a longer text is accepted with its start.
* `CommentRule.check_append_iff_not_kept` — the longer comments that a rule finds.
-/

namespace SourceLint

/-! ### Blanks at the ends of longer texts -/

namespace Text

/-- Without its blanks at the end a text is a prefix of itself. -/
lemma stripEnd_isPrefix (cs : List Char) : stripEnd cs <+: cs := by
  rw [stripEnd, ← List.reverse_suffix, List.reverse_reverse]
  exact List.dropWhile_suffix isBlank

/-- Behind a text that goes on, blanks at its end may stay, but nothing else changes. -/
lemma stripEnd_isPrefix_append (cs ds : List Char) :
    stripEnd cs <+: stripEnd (cs ++ ds) := by
  by_cases hblank : ds.reverse.dropWhile isBlank = []
  · have hsame : stripEnd (cs ++ ds) = stripEnd cs := by
      simp [stripEnd, List.dropWhile_append, hblank]
    rw [hsame]
  · have hwhole : stripEnd (cs ++ ds) = cs ++ stripEnd ds := by
      simp [stripEnd, List.dropWhile_append, hblank]
    rw [hwhole]
    exact (stripEnd_isPrefix cs).trans (List.prefix_append cs _)

/-- A text without the blanks at its ends stays in front of what is appended, if anything is left
of it. -/
lemma strip_isPrefix_append {cs : List Char} (h : strip cs ≠ []) (ds : List Char) :
    strip cs <+: strip (cs ++ ds) := by
  have hstart : cs.dropWhile isBlank ≠ [] := by
    intro hnil
    exact h (by rw [strip, hnil]; rfl)
  have hdrop : (cs ++ ds).dropWhile isBlank = cs.dropWhile isBlank ++ ds := by
    simp [List.dropWhile_append, hstart]
  rw [strip, strip, hdrop]
  exact stripEnd_isPrefix_append _ ds

end Text

/-- A text is accepted when its start is. -/
lemma Pattern.acceptsPrefix_of_isPrefix {p : Pattern} {cs ds : List Char} (h : cs <+: ds)
    (haccepts : p.acceptsPrefix cs = true) : p.acceptsPrefix ds = true := by
  obtain ⟨more, rfl⟩ := h
  obtain ⟨word, rest, rfl, hword⟩ := acceptsPrefix_iff.1 haccepts
  exact acceptsPrefix_iff.2 ⟨word, rest ++ more, List.append_assoc word rest more, hword⟩

/-! ### Longer comments -/

/-- A comment node of a source spans the bytes of a text. -/
structure Source.CommentSpans (source : Source) (node : Node) (text : List Char) : Prop where
  isComment : source.language.isComment node.kind = true
  slice_eq : Utf8.slice source.bytes node.start node.stop = Utf8.encode text

namespace CommentRule

variable {rule : CommentRule} {source : Source} {node : Node} {text : List Char}

/-- A rule finds a comment by its text. -/
lemma check_isSome_of_spans (h : source.CommentSpans node text) :
    (rule.check source node).isSome = rule.finds source.language text := by
  rw [isSome_check, h.isComment, Source.textOf_eq h.slice_eq, Bool.true_and]

/-- A text that goes on after one that is found is found unless it is kept on purpose. -/
lemma finds_append {language : Language} (h : rule.finds language text = true)
    (more : List Char) :
    rule.finds language (text ++ more) = !Comment.isKept language (Text.strip (text ++ more)) := by
  simp only [finds, Bool.and_eq_true, Bool.not_eq_true', List.isEmpty_eq_false_iff] at h
  obtain ⟨⟨hne, -⟩, haccepts⟩ := h
  have hstart := Text.strip_isPrefix_append hne more
  have hlonger : Text.strip (text ++ more) ≠ [] := by
    intro hnil
    rw [hnil] at hstart
    exact hne (List.prefix_nil.1 hstart)
  have haccepts' := Pattern.acceptsPrefix_of_isPrefix hstart haccepts
  simp [finds, hlonger, haccepts']

/-- **The longer comments that a rule finds.** A rule finds a comment that spans a text. In another
source of the same language, a comment spans that text with more appended to it. The rule finds the
longer comment exactly when it is not kept on purpose.

**Proof sketch.** The shorter text without the blanks at its ends starts the longer one without the
blanks at its ends, and both start with the same word of the rule's pattern. -/
theorem check_append_iff_not_kept (rule : CommentRule) (source longer : Source)
    (node longerNode : Node) (text more : List Char)
    (hlanguage : longer.language = source.language)
    (hspans : source.CommentSpans node text)
    (hlonger : longer.CommentSpans longerNode (text ++ more))
    (hfound : (rule.check source node).isSome = true) :
    (rule.check longer longerNode).isSome = true ↔
      Comment.isKept source.language (Text.strip (text ++ more)) = false := by
  rw [check_isSome_of_spans hspans] at hfound
  rw [check_isSome_of_spans hlonger, hlanguage, finds_append hfound, Bool.not_eq_true']

/-- A source that consists of one comment. -/
def remark (text : List Char) : Source where
  file := "a.py"
  language := {
    id := "python"
    grammar := "python"
    commentKinds := ["comment"]
    extensions := [".py"]
    toolDirectives := { spellings := [["noqa"], ["type:", "ignore"]] } }
  bytes := Utf8.encode text

/-- The node of this comment. -/
def remarkNode (text : List Char) : Node :=
  ⟨"comment", true, 0, (Utf8.encode text).length, 0, 0, none, []⟩

/-- The node of a remark spans its text. -/
lemma commentSpans_remark (text : List Char) :
    (remark text).CommentSpans (remarkNode text) text where
  isComment := by
    have hkinds : (remark text).language.commentKinds = ["comment"] := rfl
    simp [Language.isComment, hkinds, remarkNode]
  slice_eq := by simp [Utf8.slice, remark, remarkNode]

/-- An obvious comment with a blank at its end. -/
def returned : List Char :=
  "# return x ".toList

/-- The comment is found. It is also found when it goes on, unless it does so with a directive for
a tool. -/
theorem check_append_iff_not_kept_remark :
    (obvious.check (remark returned) (remarkNode returned)).isSome = true ∧
      (obvious.check (remark (returned ++ "* 2".toList))
        (remarkNode (returned ++ "* 2".toList))).isSome = true ∧
      ¬ (obvious.check (remark (returned ++ "# type: ignore".toList))
        (remarkNode (returned ++ "# type: ignore".toList))).isSome = true := by
  have hfound : (obvious.check (remark returned) (remarkNode returned)).isSome = true := by
    decide +kernel
  have hlonger := fun more : List Char =>
    check_append_iff_not_kept obvious (remark returned) (remark (returned ++ more)) _ _ _ more rfl
      (commentSpans_remark returned) (commentSpans_remark (returned ++ more)) hfound
  refine ⟨hfound, (hlonger _).2 (by decide +kernel), ?_⟩
  rw [hlonger]
  decide +kernel

end CommentRule

end SourceLint
