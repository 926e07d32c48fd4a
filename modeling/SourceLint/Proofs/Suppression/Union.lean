import SourceLint.Proofs.Directive.Occurrence
import SourceLint.Proofs.Suppression.Membership
import SourceLint.Proofs.Text.Mentions

set_option autoImplicit false

/-!
# The suppressions of several comments

What comments mute is collected comment by comment and line by line. Nothing in it depends on the
order of the comments or on repetitions: the ids that comments mute together, in the file and on
each line, are those that some of them mute. A comment of several lines mutes what its lines mute,
so it may be cut at any line feed, provided that the second part is numbered on from the first.

Directives that list no ids leave no trace. So every line that is listed has ids, and every id is a
word: lower-casing an id list neither empties a word nor brings a separator about.

## Main definitions

* `Suppressions.idsOn` — the ids that are listed for a line.
* `Directive.IsWord` — a text that is not empty and has no separators of ids.
* `Suppressions.IsTidy` — every line that is listed has ids, and all ids are words.

## Main results

* `Suppressions.isSuppressed_iff_mem` — the ids by place tell what is muted.
* `Suppressions.ofComment_append` — a comment can be cut at a line feed.
* `Suppressions.fileIds_congr`, `Suppressions.lineIds_congr` — order and repetition do not matter.
* `Suppressions.isTidy_ofComments` — what is listed.
* `Suppressions.ofComments_unites` — comments mute together what they mute separately.
-/

namespace SourceLint

/-! ### Lists that stand for sets -/

namespace Text

/-- Lists with the same members are sorted alike, repetitions left out. -/
lemma mergeSort_eraseDups_congr {α : Type} [BEq α] [LawfulBEq α] {le : α → α → Bool}
    (htrans : ∀ x y z, le x y = true → le y z = true → le x z = true)
    (htotal : ∀ x y, (le x y || le y x) = true)
    (hantisymm : ∀ x y, le x y = true → le y x = true → x = y) {xs ys : List α}
    (h : ∀ x, x ∈ xs ↔ x ∈ ys) : xs.eraseDups.mergeSort le = ys.eraseDups.mergeSort le := by
  have hperm : xs.eraseDups.Perm ys.eraseDups := by
    rw [List.perm_ext_iff_of_nodup (nodup_eraseDups xs) (nodup_eraseDups ys)]
    simpa only [List.mem_eraseDups] using h
  refine List.Perm.eq_of_pairwise (fun x y _ _ => hantisymm x y)
    (List.pairwise_mergeSort htrans htotal _) (List.pairwise_mergeSort htrans htotal _) ?_
  exact (List.mergeSort_perm _ le).trans (hperm.trans (List.mergeSort_perm _ le).symm)

/-- The distinct members of a list depend on its members only. -/
lemma sortedSet_congr {ss ts : List String} (h : ∀ s, s ∈ ss ↔ s ∈ ts) :
    sortedSet ss = sortedSet ts := by
  refine mergeSort_eraseDups_congr ?_ ?_ ?_ h
  · intro s t u
    simpa using @String.le_trans s t u
  · intro s t
    simpa using String.le_total s t
  · intro s t
    simpa using @String.le_antisymm s t

end Text

namespace Suppressions

/-! ### Ids by place -/

variable {suppressions others : Suppressions} {line : Int} {id : String}

/-- The ids that are listed for a line; none when the line is not listed. -/
def idsOn (suppressions : Suppressions) (line : Int) : List String :=
  (suppressions.lineIds.lookup line).getD []

/-- The identifiers muted for the file. -/
lemma mem_fileIds_iff : id ∈ suppressions.fileIds ↔ ⟨none, id⟩ ∈ suppressions :=
  mem_idsAt_iff

/-- The lines on which some identifier is muted. -/
lemma mem_mutedLines_iff :
    line ∈ suppressions.mutedLines ↔ ∃ id, ⟨some line, id⟩ ∈ suppressions := by
  rw [mutedLines, List.mem_mergeSort, List.mem_eraseDups, List.mem_filterMap]
  constructor
  · rintro ⟨suppression, hmem, hline⟩
    exact ⟨suppression.id, by rwa [← hline]⟩
  · rintro ⟨id, hmem⟩
    exact ⟨_, hmem, rfl⟩

/-- The ids that are listed for a line are those that are muted on it. -/
lemma mem_idsOn_iff : id ∈ suppressions.idsOn line ↔ ⟨some line, id⟩ ∈ suppressions := by
  rw [idsOn]
  cases hlookup : suppressions.lineIds.lookup line with
  | none =>
    rw [List.lookup_eq_none_iff] at hlookup
    refine ⟨by simp, fun hmem => ?_⟩
    have hlisted := List.mem_map_of_mem (f := fun line => (line, suppressions.idsAt (some line)))
      (mem_mutedLines_iff.2 ⟨id, hmem⟩)
    simpa using hlookup _ hlisted
  | some ids =>
    obtain ⟨before, after, hlisted, -⟩ := List.lookup_eq_some_iff.1 hlookup
    have hentry : (line, ids) ∈ suppressions.lineIds := by simp [hlisted]
    obtain ⟨_, -, heq⟩ := List.mem_map.1 hentry
    simp only [Prod.mk.injEq] at heq
    obtain ⟨rfl, rfl⟩ := heq
    exact mem_idsAt_iff

/-- **The ids by place tell what is muted.** A rule is muted when its id, or the id for all rules,
is listed for the file or for the line in question. -/
lemma isSuppressed_iff_mem {rule : String} {place : Option Int} :
    suppressions.isSuppressed rule place = true ↔
      ∃ id, (id = "all" ∨ id = Text.lowerString rule) ∧
        (id ∈ suppressions.fileIds ∨ ∃ line, place = some line ∧ id ∈ suppressions.idsOn line) := by
  simp only [isSuppressed_iff, mem_fileIds_iff, mem_idsOn_iff]
  constructor
  · rintro ⟨⟨muted, id⟩, hmem, hplace, hid⟩
    refine ⟨id, hid, ?_⟩
    cases muted with
    | none => exact .inl hmem
    | some line => exact .inr ⟨line, by simpa [eq_comm] using hplace, hmem⟩
  · rintro ⟨id, hid, hmem | ⟨line, rfl, hmem⟩⟩
    · exact ⟨_, hmem, .inl rfl, hid⟩
    · exact ⟨_, hmem, .inr rfl, hid⟩

/-! ### Order and repetition -/

/-- The identifiers muted at a place depend only on which suppressions there are. -/
lemma idsAt_congr (h : ∀ s, s ∈ suppressions ↔ s ∈ others) (place : Option Int) :
    suppressions.idsAt place = others.idsAt place := by
  apply Text.sortedSet_congr
  intro id
  simp only [List.mem_map, List.mem_filter, h]

/-- The ids that are muted in the file depend on the members of the suppressions only. -/
lemma fileIds_congr (h : ∀ s, s ∈ suppressions ↔ s ∈ others) :
    suppressions.fileIds = others.fileIds :=
  idsAt_congr h none

/-- The muted lines depend only on which suppressions there are. -/
lemma mutedLines_congr (h : ∀ s, s ∈ suppressions ↔ s ∈ others) :
    suppressions.mutedLines = others.mutedLines := by
  refine Text.mergeSort_eraseDups_congr ?_ ?_ ?_ ?_
  · intro m n k
    simpa using @Int.le_trans m n k
  · intro m n
    simpa using Int.le_total m n
  · intro m n
    simpa using @Int.le_antisymm m n
  · intro line
    simp only [List.mem_filterMap, h]

/-- The ids that are muted on lines depend on the members of the suppressions only. -/
lemma lineIds_congr (h : ∀ s, s ∈ suppressions ↔ s ∈ others) :
    suppressions.lineIds = others.lineIds := by
  rw [lineIds, lineIds, mutedLines_congr h]
  apply List.map_congr_left
  intro line _
  rw [idsAt_congr h]

/-- Comments mute together what they mute separately. -/
lemma ofComments_append (comments more : List (Int × List Char)) :
    ofComments (comments ++ more) = ofComments comments ++ ofComments more :=
  List.flatMap_append

/-- The members of the suppressions depend on the members of the comments only. -/
lemma mem_ofComments_congr {comments more : List (Int × List Char)}
    (h : ∀ comment, comment ∈ comments ↔ comment ∈ more) (suppression : Suppression) :
    suppression ∈ ofComments comments ↔ suppression ∈ ofComments more := by
  simp only [ofComments, List.mem_flatMap, h]

/-! ### Cutting a comment -/

/-- The lines behind some lines are numbered on from these. -/
lemma ofLines_append (number : Int) (lines more : List (List Char)) :
    ofLines number (lines ++ more) =
      ofLines number lines ++ ofLines (number + lines.length) more := by
  induction lines generalizing number with
  | nil => simp [ofLines]
  | cons line lines ih =>
    have hnumber : number + 1 + (lines.length : Int) = number + ((line :: lines).length : Int) := by
      simp only [List.length_cons]
      omega
    rw [List.cons_append, ofLines, ofLines, ih, List.append_assoc, hnumber]

/-- **A comment can be cut at a line feed**, if the second part is numbered on from the first. -/
lemma ofComment_append (number : Int) (cs ds : List Char) :
    ofComment number (cs ++ '\n' :: ds) =
      ofComment number cs ++ ofComment (number + 1 + cs.count '\n') ds := by
  have hnumber : number + ((Text.lines cs).length : Int) = number + 1 + (cs.count '\n' : Int) := by
    rw [Text.lines, Text.length_splitWhere, List.count]
    omega
  have hlines : Text.lines (cs ++ '\n' :: ds) = Text.lines cs ++ Text.lines ds :=
    Text.splitWhere_append_cons (by decide) cs ds
  rw [ofComment, hlines, ofLines_append, hnumber]
  rfl

end Suppressions

/-! ### Ids are words -/

namespace Text

/-- Every character of a lower-case text belongs to the lower-case form of a character. -/
lemma exists_lowerAt_of_mem_lower {cs : List Char} {d : Char} (h : d ∈ lower cs) :
    ∃ c ∈ cs, ∃ afterCased rest, d ∈ lowerAt afterCased c rest := by
  have hfrom : ∀ before, d ∈ lowerFrom before cs →
      ∃ c ∈ cs, ∃ afterCased rest, d ∈ lowerAt afterCased c rest := by
    clear h
    induction cs with
    | nil => simp [lowerFrom]
    | cons c cs ih =>
      intro before h
      rw [lowerFrom, List.mem_append] at h
      rcases h with hhead | htail
      · exact ⟨c, List.mem_cons_self, before, cs, hhead⟩
      · obtain ⟨c', hc', hmem⟩ := ih _ htail
        exact ⟨c', List.mem_cons_of_mem c hc', hmem⟩
  exact hfrom false h

end Text

namespace Directive

/-- A text that is not empty and has no separators of ids. -/
def IsWord (id : String) : Prop :=
  id ≠ "" ∧ ∀ c ∈ id.toList, c ≠ ',' ∧ Text.isBlank c = false

/-- A character of an id: a letter, digit, hyphen or underscore, or a foreign form of a letter. -/
lemma cases_of_isIdListChar {c : Char} (hlist : isIdListChar c = true)
    (hseparator : isIdSeparator c = false) :
    c.isAlphanum = true ∨ c = '_' ∨ c = '-' ∨
      c = '\u017f' ∨ c = '\u212a' ∨ c = '\u0130' ∨ c = '\u0131' := by
  have hletter : ∀ {x : Char}, x.isAlpha = true → Text.sameLetter x c = true →
      c.isAlphanum = true ∨ c = '\u017f' ∨ c = '\u212a' ∨ c = '\u0130' ∨ c = '\u0131' := by
    intro x hx hsame
    rcases Text.cases_of_sameLetter hsame with hown | ⟨-, hs⟩ | ⟨-, hk⟩ | ⟨-, hi⟩
    · -- the two forms of the letter itself
      left
      rw [Char.isAlphanum, ← Char.isLower_toLower_eq_isAlpha, hown,
        Char.isLower_toLower_eq_isAlpha, hx, Bool.true_or]
    · exact .inr (.inl hs)
    · exact .inr (.inr (.inl hk))
    · exact .inr (.inr (.inr hi))
  simp only [isIdListChar, hseparator, Bool.false_or, Bool.or_eq_true, beq_iff_eq] at hlist
  rcases hlist with ((((halnum | hunderscore) | hhyphen) | hs) | hk) | hi
  · exact .inl halnum
  · exact .inr (.inl hunderscore)
  · exact .inr (.inr (.inl hhyphen))
  · exact (hletter (by decide) hs).imp_right fun h => .inr (.inr h)
  · exact (hletter (by decide) hk).imp_right fun h => .inr (.inr h)
  · exact (hletter (by decide) hi).imp_right fun h => .inr (.inr h)

/-- A letter, digit, hyphen or underscore in lower case is printed and no comma. -/
lemma toNat_toLower_of_isAlphanum {c : Char} (h : c.isAlphanum = true ∨ c = '_' ∨ c = '-') :
    c.toNat < 0x80 ∧ 45 ≤ c.toLower.toNat ∧ c.toLower.toNat ≤ 122 := by
  rcases h with halnum | rfl | rfl
  · rw [Char.isAlphanum, Bool.or_eq_true] at halnum
    by_cases halpha : c.isAlpha = true
    · have hcode := Text.isAlpha_iff.1 halpha
      rw [← Char.isLower_toLower_eq_isAlpha, Text.isLower_iff] at halpha
      omega
    · have hcode := Text.isDigit_iff.1 (halnum.resolve_left halpha)
      rw [Text.toLower_of_not_isAlpha (by simpa using halpha)]
      omega
  · decide
  · decide

/-- Lower-casing a character of an id brings no separator about. -/
lemma not_isIdSeparator_of_mem_lowerAt {c d : Char} {afterCased : Bool} {rest : List Char}
    (hlist : isIdListChar c = true) (hseparator : isIdSeparator c = false)
    (hd : d ∈ Text.lowerAt afterCased c rest) : d ≠ ',' ∧ Text.isBlank d = false := by
  have hplain : c.isAlphanum = true ∨ c = '_' ∨ c = '-' → d ≠ ',' ∧ Text.isBlank d = false := by
    intro hc
    obtain ⟨hcode, hlow, hhigh⟩ := toNat_toLower_of_isAlphanum hc
    rw [Text.lowerAt_of_lt hcode, List.mem_singleton] at hd
    subst hd
    refine ⟨?_, Text.isBlank_eq_false (by omega)⟩
    intro hcomma
    rw [hcomma] at hlow
    exact absurd hlow (by decide)
  have hforeign : ∀ x : Char, Text.lowerChar c = x → c ≠ '\u03a3' → c ≠ '\u0130' → d = x := by
    rintro x rfl hsigma hdotted
    simpa [Text.lowerAt, hsigma, hdotted] using hd
  rcases cases_of_isIdListChar hlist hseparator with h | h | h | rfl | rfl | rfl | rfl
  · exact hplain (.inl h)
  · exact hplain (.inr (.inl h))
  · exact hplain (.inr (.inr h))
  · rw [hforeign '\u017f' (by decide) (by decide) (by decide)]
    decide
  · rw [hforeign 'k' (by decide) (by decide) (by decide)]
    decide
  · -- the dotted capital becomes a plain letter with a combining dot
    simp only [Text.lowerAt, Char.reduceEq, if_false, if_true, List.mem_cons, List.not_mem_nil,
      or_false] at hd
    rcases hd with rfl | rfl <;> decide
  · rw [hforeign '\u0131' (by decide) (by decide) (by decide)]
    decide

/-- The ids of a list are words. -/
lemma isWord_of_mem_idsOf {list : List Char} (hlist : ∀ c ∈ list, isIdListChar c = true)
    {id : String} (hid : id ∈ idsOf list) : IsWord id := by
  obtain ⟨word, hword, rfl⟩ := List.mem_map.1 hid
  rw [Text.wordsWhere, List.mem_filter] at hword
  obtain ⟨hpiece, hne⟩ := hword
  have hpart := Text.isInfix_of_mem_splitWhere hpiece
  constructor
  · have hlower : Text.lower word ≠ [] := Text.lower_ne_nil (by simpa using hne)
    simpa using hlower
  · intro d hd
    rw [String.toList_ofList] at hd
    obtain ⟨c, hc, afterCased, rest, hmem⟩ := Text.exists_lowerAt_of_mem_lower hd
    exact not_isIdSeparator_of_mem_lowerAt (hlist c (hpart.subset hc))
      (Text.not_mem_of_mem_splitWhere hpiece hc) hmem

/-- The ids of the directives of a line are words. -/
lemma isWord_of_mem_findAll {cs : List Char} {directive : Directive} {id : String}
    (hdirective : directive ∈ findAll cs) (hid : id ∈ directive.ids) : IsWord id := by
  have hmem : occurrence directive ∈ (findAll cs).map occurrence := List.mem_map_of_mem hdirective
  obtain ⟨text, rest, hstands⟩ := (found_iff.2 rfl).exists_stands hmem
  generalize ho : occurrence directive = o at hstands
  obtain rfl : directive = o.directive := congrArg Occurrence.directive ho
  cases hstands with
  | intro _ _ _ _ _ _ hids _ => exact isWord_of_mem_idsOf hids hid

end Directive

namespace Suppressions

open Directive

/-- Every line that is listed has ids, and all ids are words. -/
structure IsTidy (suppressions : Suppressions) : Prop where
  ids_ne_nil : ∀ entry ∈ suppressions.lineIds, entry.2 ≠ []
  isWord_of_line : ∀ entry ∈ suppressions.lineIds, ∀ id ∈ entry.2, IsWord id
  isWord_of_file : ∀ id ∈ suppressions.fileIds, IsWord id

/-- **What is listed**: no line without ids, and words only. -/
lemma isTidy_ofComments (comments : List (Int × List Char)) : (ofComments comments).IsTidy := by
  have hword : ∀ suppression ∈ ofComments comments, IsWord suppression.id := by
    intro suppression hmem
    obtain ⟨_, -, _, line, -, directive, hdirective, -, hid⟩ := mem_ofComments_iff.1 hmem
    exact isWord_of_mem_findAll hdirective hid
  refine ⟨?_, ?_, fun id hid => hword _ (mem_fileIds_iff.1 hid)⟩
  · intro entry hentry
    obtain ⟨line, hline, rfl⟩ := List.mem_map.1 hentry
    obtain ⟨id, hid⟩ := mem_mutedLines_iff.1 hline
    exact List.ne_nil_of_mem (mem_idsAt_iff.2 hid)
  · intro entry hentry id hid
    obtain ⟨line, -, rfl⟩ := List.mem_map.1 hentry
    exact hword _ (mem_idsAt_iff.1 hid)

/-! ### Comments together -/

/-- **Comments mute together what they mute separately.** The ids that two lists of comments mute
together in the file are the union of what each of them mutes there, and so are those on every line;
hence a rule is muted by both together when one of them mutes it. Comments with the same members
mute the same, in whatever order and however often they are given. A comment that is cut at a line
feed mutes what its parts mute, the second one being numbered on from the first. Whatever is listed,
no line is listed without ids, and every id is a word.

**Proof sketch.** The suppressions of appended comments are those of the parts, one after the other,
and the ids by place depend on the members of the suppressions only. -/
theorem ofComments_unites (comments more : List (Int × List Char)) :
    (ofComments (comments ++ more)).fileIds.toFinset =
      (ofComments comments).fileIds.toFinset ∪ (ofComments more).fileIds.toFinset ∧
    (∀ line, ((ofComments (comments ++ more)).idsOn line).toFinset =
      ((ofComments comments).idsOn line).toFinset ∪ ((ofComments more).idsOn line).toFinset) ∧
    (∀ rule place, (ofComments (comments ++ more)).isSuppressed rule place =
      ((ofComments comments).isSuppressed rule place ||
        (ofComments more).isSuppressed rule place)) ∧
    ((∀ comment, comment ∈ comments ↔ comment ∈ more) →
      (ofComments comments).fileIds = (ofComments more).fileIds ∧
        (ofComments comments).lineIds = (ofComments more).lineIds) ∧
    (∀ (number : Int) (cs ds : List Char),
      ofComments [(number, cs ++ '\n' :: ds)] =
        ofComments [(number, cs), (number + 1 + cs.count '\n', ds)]) ∧
    (ofComments comments).IsTidy := by
  have hfile : ∀ id, id ∈ (ofComments (comments ++ more)).fileIds ↔
      id ∈ (ofComments comments).fileIds ∨ id ∈ (ofComments more).fileIds := by
    intro id
    simp only [mem_fileIds_iff, ofComments_append, List.mem_append]
  have hline : ∀ line id, id ∈ (ofComments (comments ++ more)).idsOn line ↔
      id ∈ (ofComments comments).idsOn line ∨ id ∈ (ofComments more).idsOn line := by
    intro line id
    simp only [mem_idsOn_iff, ofComments_append, List.mem_append]
  refine ⟨?_, ?_, ?_, ?_, ?_, isTidy_ofComments comments⟩
  · ext id
    simp [hfile]
  · intro line
    ext id
    simp [hline]
  · intro rule place
    rw [Bool.eq_iff_iff, Bool.or_eq_true, isSuppressed_iff_mem, isSuppressed_iff_mem,
      isSuppressed_iff_mem]
    simp only [hfile, hline, and_or_left, exists_or, or_or_or_comm]
  · intro h
    exact ⟨fileIds_congr (mem_ofComments_congr h), lineIds_congr (mem_ofComments_congr h)⟩
  · intro number cs ds
    simp only [ofComments, List.flatMap_cons, List.flatMap_nil, List.append_nil,
      ofComment_append]

/-- A comment of two lines; the first one has a directive without ids. -/
def block : Int × List Char :=
  (3, "/* sloplint: disable=,\n   sloplint: disable-next-line=TAS\u212a */".toList)

/-- A comment that mutes every rule. -/
def banner : Int × List Char :=
  (1, "# sloplint: disable-file=all".toList)

/-- A comment of two lines, before and once more behind one that mutes every rule. -/
theorem ofComments_unites_block :
    (∀ comment, comment ∈ [block, banner, block] ↔ comment ∈ [banner, block]) ∧
      (ofComments [block, banner, block]).fileIds = ["all"] ∧
      (ofComments [block, banner, block]).lineIds = [(5, ["task"])] ∧
      ∀ entry ∈ (ofComments [block, banner, block]).lineIds, entry.2 ≠ [] := by
  have hmem : ∀ comment, comment ∈ [block, banner, block] ↔ comment ∈ [banner, block] := by
    intro comment
    simp [or_comm, or_left_comm]
  obtain ⟨-, -, -, hsame, -, htidy⟩ := ofComments_unites [block, banner, block] [banner, block]
  obtain ⟨hfile, hline⟩ := hsame hmem
  exact ⟨hmem, hfile.trans (by decide +kernel), hline.trans (by decide +kernel), htidy.ids_ne_nil⟩

end Suppressions

end SourceLint
