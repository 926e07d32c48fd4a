import SourceLint.Proofs.Pattern.Words
import SourceLint.Proofs.Rule.Reach

set_option autoImplicit false

/-!
# The grammar of comments that are found

A comment rule finds a comment by reading it character by character. What it finds can be told
without any reading: the comment, without the blanks at its ends, starts with a delimiter, blanks
and a phrase of the rule, for some way to take it apart into these. There may be several such ways,
as delimiters and phrases can be starts of one another; one of them is enough.

## Main definitions

* `CommentRule.delimiters` — the delimiters behind which a rule looks for its phrases.

## Main results

* `CommentRule.acceptsPrefix_pattern_iff` — the texts that start like a comment of the kind.
* `CommentRule.check_isSome_iff_grammar` — the comments that a rule finds.
-/

namespace SourceLint

/-- The text of a node is the text whose bytes it spans. -/
lemma Source.textOf_eq {source : Source} {node : Node} {text : List Char}
    (h : Utf8.slice source.bytes node.start node.stop = Utf8.encode text) :
    source.textOf node = text := by
  rw [textOf, textBetween, h, Utf8.decode_encode]

namespace CommentRule

open Pattern

variable {rule : CommentRule} {cs w : List Char}

/-- The delimiters behind which a rule looks for its phrases: those of line comments only, if the
rule is about dividers. -/
def delimiters : CommentRule → List String
  | .divider => ["//", "#"]
  | _ => ["//", "#", "/*", "/**"]

/-- The words of the delimiters of a rule. -/
lemma mem_words_delimiter_iff :
    w ∈ rule.delimiter.words ↔ ∃ delimiter ∈ rule.delimiters, w = delimiter.toList := by
  have hwords : ∀ ss : List String, w ∈ (anyOf (ss.map exactText)).words ↔
      ∃ s ∈ ss, w = s.toList := by
    intro ss
    simp [mem_words_anyOf_iff, mem_words_exactText_iff]
  cases rule <;> exact hwords _

/-- **The texts that start like a comment of the kind**: with a delimiter, blanks and a phrase. -/
lemma acceptsPrefix_pattern_iff :
    rule.pattern.acceptsPrefix cs = true ↔
      ∃ delimiter ∈ rule.delimiters, ∃ blanks phrase rest,
        cs = delimiter.toList ++ blanks ++ phrase ++ rest ∧
          (∀ c ∈ blanks, Text.isBlank c = true) ∧ phrase ∈ rule.phrase.words := by
  simp only [acceptsPrefix_iff_words, pattern, mem_words_chain_cons_iff, mem_words_delimiter_iff,
    mem_words_blanks_iff]
  constructor
  · rintro ⟨_, rest, rfl, _, _, rfl, ⟨delimiter, hdelimiter, rfl⟩, blanks, _, rfl, hblanks, phrase,
      _, rfl, hphrase, rfl⟩
    exact ⟨delimiter, hdelimiter, blanks, phrase, rest, by simp, hblanks, hphrase⟩
  · rintro ⟨delimiter, hdelimiter, blanks, phrase, rest, rfl, hblanks, hphrase⟩
    exact ⟨_, rest, rfl, _, _, List.append_assoc _ _ _, ⟨delimiter, hdelimiter, rfl⟩, blanks,
      phrase, rfl, hblanks, phrase, [], by simp, hphrase, rfl⟩

/-- **The comments that a rule finds.** A comment node spans the bytes of a text. The rule finds it
if the text, without the blanks at its ends, is not empty and not kept on purpose, and starts with a
delimiter, any number of blanks and a word of the language of the rule's phrases. Whatever follows
makes no difference.

**Proof sketch.** The bytes of a text are read back as that text. Reading the start of a comment by
derivatives of the rule's pattern finds a prefix in the language of the pattern if there is one, and
that language is put together from delimiters, blanks and phrases. -/
theorem check_isSome_iff_grammar (rule : CommentRule) (source : Source) (node : Node)
    (text : List Char) (hcomment : source.language.isComment node.kind = true)
    (hspan : Utf8.slice source.bytes node.start node.stop = Utf8.encode text) :
    (rule.check source node).isSome = true ↔
      Text.strip text ≠ [] ∧ Comment.isKept source.language (Text.strip text) = false ∧
        ∃ delimiter ∈ rule.delimiters, ∃ blanks phrase rest,
          Text.strip text = delimiter.toList ++ blanks ++ phrase ++ rest ∧
            (∀ c ∈ blanks, Text.isBlank c = true) ∧ phrase ∈ rule.phrase.words := by
  rw [isSome_check, hcomment, Source.textOf_eq hspan, finds, ← acceptsPrefix_pattern_iff]
  simp [and_assoc]

/-- The text of a comment whose delimiter could also be shorter, with a foreign form of a letter. -/
def numberedText : List Char :=
  "/** ſtep 1: read".toList

/-- A source that consists of this comment. -/
def numbered : Source where
  file := "a.ts"
  language := {
    id := "typescript"
    grammar := "typescript"
    commentKinds := ["comment"]
    extensions := [".ts"]
    toolDirectives := { spellings := [["eslint"]] } }
  bytes := Utf8.encode numberedText

/-- The node of this comment. -/
def numberedNode : Node :=
  ⟨"comment", true, 0, 17, 0, 0, none, []⟩

/-- A comment that numbers a step. -/
theorem check_isSome_iff_grammar_numbered :
    numbered.language.isComment numberedNode.kind = true ∧
      Utf8.slice numbered.bytes numberedNode.start numberedNode.stop = Utf8.encode numberedText ∧
      (CommentRule.step.check numbered numberedNode).isSome = true ∧
      ∃ delimiter ∈ CommentRule.step.delimiters, ∃ blanks phrase rest,
        Text.strip numberedText = delimiter.toList ++ blanks ++ phrase ++ rest ∧
          (∀ c ∈ blanks, Text.isBlank c = true) ∧ phrase ∈ CommentRule.step.phrase.words := by
  have hspan : Utf8.slice numbered.bytes numberedNode.start numberedNode.stop =
      Utf8.encode numberedText := by decide +kernel
  have hfound : (CommentRule.step.check numbered numberedNode).isSome = true := by decide +kernel
  obtain ⟨-, -, hgrammar⟩ := (check_isSome_iff_grammar .step numbered numberedNode numberedText
    (by decide) hspan).1 hfound
  exact ⟨by decide, hspan, hfound, hgrammar⟩

end CommentRule

end SourceLint
