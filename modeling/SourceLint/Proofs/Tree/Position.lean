import Mathlib.Data.List.DropRight
import Mathlib.Tactic.IntervalCases
import SourceLint.Rule.Catalogue

set_option autoImplicit false

/-!
# Positions count characters

A tree speaks of its source in bytes: a node covers a range of bytes and starts in a byte column. A
diagnostic speaks of characters. For a node that covers a part of a text, and starts in the row and
byte column where the text before it ends, the two agree: the line of the diagnostic is told from
the line feeds before the part, its column from the characters between the last of them and the
part, and its text is the part up to its first visual line end. This holds of texts in any mix of
characters of one to four bytes, since no cut divides a character.

## Main definitions

* `Text.lastLine` — what stands behind the last line feed of a text.
* `Text.lineEnds` — the characters that end a visual line.
* `Text.IsLongestStart` — the longest start of a text without some characters.
* `Node.Covers` — a node that covers a part of a text, with the position where the part starts.

## Main results

* `Source.textBetween_ofText` — the text between the bytes of two cuts is the text between the cuts.
* `Text.isLongestStart_firstLine` — the first visual line of a text.
* `Finding.at_counts_characters` — line, column and text of a diagnostic.
-/

namespace SourceLint

namespace Utf8

/-- A slice from one cut of a sequence to another is what stands between them. -/
lemma slice_append (xs ys zs : List UInt8) :
    slice (xs ++ (ys ++ zs)) xs.length (xs.length + ys.length) = ys := by
  rw [slice, List.take_length_add_append, List.take_left, List.drop_left]

/-- An index that does not count from the end is its own place. -/
lemma cut_sub {bytes : List UInt8} {start column : Nat} (h : column ≤ start) :
    cut bytes ((start : Int) - column) = start - column := by
  rw [← Int.ofNat_sub h]
  rfl

end Utf8

namespace Text

/-! ### Lines -/

/-- What stands behind the last line feed of a text; the whole text if it has none. -/
def lastLine (cs : List Char) : List Char :=
  cs.rtakeWhile (· != '\n')

/-- The last line of a text ends it. -/
lemma exists_append_lastLine (cs : List Char) : ∃ lines, lines ++ lastLine cs = cs :=
  ⟨_, List.rdropWhile_append_rtakeWhile⟩

/-- The characters that end a visual line. -/
def lineEnds : List Char :=
  ['\n', '\x0b', '\x0c', '\r', '\x1c', '\x1d', '\x1e', '\x85', '\u2028', '\u2029']

/-- Which characters end a line. -/
lemma isLineBreak_iff {c : Char} : isLineBreak c = true ↔ c ∈ lineEnds := by
  constructor
  · intro h
    obtain ⟨range, hrange, hlow, hhigh⟩ := Ranges.contains_iff.1 h
    rw [← Char.ofNat_toNat c]
    generalize c.toNat = code at hlow hhigh
    simp only [lineBreakRanges, List.mem_cons, List.not_mem_nil, or_false] at hrange
    rcases hrange with rfl | rfl | rfl | rfl <;> interval_cases code <;> decide
  · intro h
    have hall : lineEnds.all isLineBreak = true := by decide
    exact List.all_eq_true.1 hall c h

/-- The longest start of a text without some characters. -/
structure IsLongestStart (excluded cs start : List Char) : Prop where
  isPrefix : start <+: cs
  not_mem : ∀ c ∈ start, c ∉ excluded
  length_le : ∀ other, other <+: cs → (∀ c ∈ other, c ∉ excluded) → other.length ≤ start.length

/-- The first visual line of a text is its longest start without the end of a visual line. -/
lemma isLongestStart_firstLine (cs : List Char) : IsLongestStart lineEnds cs (firstLine cs) where
  isPrefix := List.takeWhile_prefix _
  not_mem := by
    intro c hc
    rw [← isLineBreak_iff]
    simpa using List.mem_takeWhile_imp hc
  length_le := by
    rintro other ⟨more, rfl⟩ hfree
    have hpass : ∀ c ∈ other, (!isLineBreak c) = true := by
      intro c hc
      simpa using mt isLineBreak_iff.1 (hfree c hc)
    rw [firstLine, List.takeWhile_append_of_pos hpass, List.length_append]
    exact Nat.le_add_right _ _

end Text

/-! ### Nodes that cover a part of a text -/

/-- A node covers a part of a text, given what stands before the part: its range of bytes is that of
the part, and it starts in the row and byte column where the text before the part ends. -/
structure Node.Covers (node : Node) (before part : List Char) : Prop where
  start_eq : node.start = (Utf8.encode before).length
  stop_eq : node.stop = (Utf8.encode (before ++ part)).length
  row_eq : node.row = before.count '\n'
  column_eq : node.column = (Utf8.encode (Text.lastLine before)).length

namespace Source

variable {file : String} {language : Language} {node : Node} {before part after : List Char}

/-- The text between the bytes of two cuts is the text between the cuts. -/
lemma textBetween_ofText :
    (ofText file language (String.ofList (before ++ part ++ after))).textBetween
      (Utf8.encode before).length (Utf8.encode (before ++ part)).length = part := by
  rw [textBetween, ofText, String.toList_ofList, List.append_assoc, Utf8.encode_append,
    Utf8.encode_append, Utf8.encode_append, List.length_append, Utf8.slice_append,
    Utf8.decode_encode]

/-- The text of a node that covers a part is that part. -/
lemma textOf_of_covers (h : node.Covers before part) :
    (ofText file language (String.ofList (before ++ part ++ after))).textOf node = part := by
  rw [textOf, h.start_eq, h.stop_eq, textBetween_ofText]

/-- Between the start of its line and a node stands the last line of what is before the node. -/
lemma textBetween_of_covers (h : node.Covers before part) :
    (ofText file language (String.ofList (before ++ part ++ after))).textBetween
      ((ofText file language (String.ofList (before ++ part ++ after))).lineStart node)
      node.start = Text.lastLine before := by
  obtain ⟨lines, hlines⟩ := Text.exists_append_lastLine before
  have hstart : node.start = (Utf8.encode (lines ++ Text.lastLine before)).length := by
    rw [h.start_eq, hlines]
  have hsum : node.start = (Utf8.encode lines).length + node.column := by
    rw [hstart, h.column_eq, Utf8.encode_append, List.length_append]
  have hcut : (ofText file language (String.ofList (before ++ part ++ after))).lineStart node =
      (Utf8.encode lines).length := by
    rw [lineStart, Utf8.cut_sub (by omega)]
    omega
  have htext : before ++ part ++ after = lines ++ Text.lastLine before ++ (part ++ after) := by
    rw [hlines, List.append_assoc]
  rw [hcut, hstart, htext, textBetween_ofText]

end Source

/-- **Positions and excerpts are exact in characters.** A text has a part in it, and a node covers
this part. A diagnostic on the node gives, counted from one, the number of line feeds before the
part as its line, and the number of characters between the last line feed and the part as its
column. Its text is the longest start of the part without the end of a visual line, so it is empty
if the part is.

**Proof sketch.** The bytes of the source are those of the text before the part, of the part, and of
the text after it, so a slice between two cuts is decoded to what stands between them. This applies
to the part, and to the last line of the text before it. -/
theorem Finding.at_counts_characters (finding : Finding) (file : String) (language : Language)
    (before part after : List Char) (node : Node) (hcovers : node.Covers before part) :
    let diagnostic := finding.at
      (.ofText file language (String.ofList (before ++ part ++ after))) node
    diagnostic.line = 1 + before.count '\n' ∧
      diagnostic.column = 1 + (Text.lastLine before).length ∧
      Text.IsLongestStart Text.lineEnds part diagnostic.text.toList ∧
      (part = [] → diagnostic.text = "") := by
  refine ⟨?_, ?_, ?_, ?_⟩
  · simp only [Finding.at, Source.position, hcovers.row_eq]
    omega
  · simp only [Finding.at, Source.position, Source.textBetween_of_covers hcovers]
    omega
  · rw [Finding.at, Source.excerpt, Source.textOf_of_covers hcovers, String.toList_ofList]
    exact Text.isLongestStart_firstLine part
  · rintro rfl
    rw [Finding.at, Source.excerpt, Source.textOf_of_covers hcovers]
    rfl

/-- A text whose last line has characters of one, two and four bytes. -/
def mixed : List Char :=
  "a\né😀 ".toList

/-- A comment that goes on behind a line separator. -/
def separated : List Char :=
  "# eins\u2028zwei".toList

/-- The node of this comment. -/
def separatedNode : Node :=
  ⟨"comment", true, 9, 22, 1, 7, none, []⟩

/-- A source in which the comment stands behind the text. -/
def mixedSource (language : Language) : Source :=
  .ofText "a.py" language (String.ofList (mixed ++ separated ++ "\n".toList))

/-- A comment on the second line, behind letters of several bytes and before a line separator. -/
theorem Finding.at_counts_characters_mixed :
    ∃ language, Language.ofId? "python" = some language ∧
      separatedNode.Covers mixed separated ∧
      (CommentRule.step.finding.at (mixedSource language) separatedNode).line = 2 ∧
      (CommentRule.step.finding.at (mixedSource language) separatedNode).column = 4 ∧
      Text.IsLongestStart Text.lineEnds separated
        (CommentRule.step.finding.at (mixedSource language) separatedNode).text.toList ∧
      (CommentRule.step.finding.at (mixedSource language) separatedNode).text = "# eins" := by
  have hcovers : separatedNode.Covers mixed separated := by
    constructor <;> decide +kernel
  have hexact := fun language => Finding.at_counts_characters CommentRule.step.finding "a.py"
    language mixed separated "\n".toList separatedNode hcovers
  exact ⟨_, rfl, hcovers, (hexact _).1, (hexact _).2.1, (hexact _).2.2.1, by decide +kernel⟩

end SourceLint
