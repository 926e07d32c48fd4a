import SourceLint.Proofs.Directive.Written
import SourceLint.Proofs.Suppression.Membership

set_option autoImplicit false

/-!
# Two directives on one line

A written directive on a line of its own mutes its ids in the place of its scope. A second one
behind it is lost: a blank is a character of an id list, and so are the letters of the opening, so
the first list goes on up to the colon of the second opening, which leaves no opening to be found.
The line mutes what the first directive mutes, and the name of the tool as if it were the id of a
rule.

So the line mutes what both directives mute on their own only if that is no more than this: both
have the same scope, the second one repeats ids of the first, and the name of the tool is one of the
ids.

## Main results

* `Suppressions.mem_idsAt_written` — what a written directive mutes.
* `Suppressions.mem_idsAt_pair` — what two written directives on one line mute.
* `Suppressions.pair_mutes_union_iff` — when that is what they mute on their own.
* `Suppressions.second_directive_lost` — a second directive that is lost.
-/

namespace SourceLint

namespace Directive.Written

variable (written : Written)

/-- What stands behind the opening of a written directive holds no colon. -/
lemma colon_not_mem_tail : ':' ∉ written.scope.keyword.toList ++ '=' :: written.list := by
  intro h
  have hkeyword : ∀ scope : Scope, ':' ∉ scope.keyword.toList := by
    intro scope
    cases scope <;> decide
  rcases List.mem_append.1 h with hmem | hmem
  · exact hkeyword _ hmem
  · rcases List.mem_cons.1 hmem with heq | hlist
    · exact absurd heq (by decide)
    · exact absurd (written.isIdListChar_of_mem_list _ hlist) (by decide)

/-- A written directive stays on its line. -/
lemma newline_not_mem_text : '\n' ∉ written.text.toList := by
  have hkeyword : ∀ scope : Scope, '\n' ∉ scope.keyword.toList := by
    intro scope
    cases scope <;> decide
  have hlist : '\n' ∉ written.list := by
    intro hmem
    exact (isIdListChar_of_mem_joinWith
      (fun id hid => isIdText_of_isKebab (written.ids_isKebab id hid)) _ hmem).2 rfl
  have hopening : '\n' ∉ opening.toList := by decide
  rw [toList_text]
  simp [hkeyword, hlist, hopening]

end Directive.Written

namespace Suppressions

open Directive

/-- A comment of one line has the suppressions of that line. -/
lemma ofComments_singleton {number : Int} {cs : List Char} (h : '\n' ∉ cs) :
    ofComments [(number, cs)] = ofLine number cs := by
  have hlines : Text.lines cs = [cs] := by
    apply Text.splitWhere_eq_singleton
    intro c hc
    have hne : c ≠ '\n' := fun heq => h (heq ▸ hc)
    simpa using hne
  simp [ofComments, ofComment, hlines, ofLines]

/-- A comment of one line with a single directive mutes the ids of that directive. -/
lemma mem_idsAt_of_findAll {number : Int} {cs : List Char} {directive : Directive}
    (hline : '\n' ∉ cs) (hfind : findAll cs = [directive]) {place : Option Int} {id : String} :
    id ∈ (ofComments [(number, cs)]).idsAt place ↔
      place = directive.scope.place number ∧ id ∈ directive.ids := by
  rw [mem_idsAt_iff, ofComments_singleton hline, ofLine, hfind, List.flatMap_singleton,
    mem_directive_iff]

/-- A written directive mutes its ids in the place of its scope. -/
lemma mem_idsAt_written (written : Written) (number : Int) {place : Option Int} {id : String} :
    id ∈ (ofComments [(number, ("# " ++ written.text).toList)]).idsAt place ↔
      place = written.scope.place number ∧ id ∈ written.ids := by
  have hline : '\n' ∉ ("# " ++ written.text).toList := by
    rw [String.toList_append, List.mem_append, not_or]
    exact ⟨by decide, written.newline_not_mem_text⟩
  have hfind : findAll ("# " ++ written.text).toList =
      [⟨written.scope.keyword.toList, written.ids⟩] := by
    have hcomment := written.findAll_comment [] [] (by simp) (by simp)
    rw [findAll_nil, List.append_nil, List.append_nil, List.append_nil] at hcomment
    rw [String.toList_append, hcomment, Written.list, idsOf_joinWith written.ids_isKebab]
  rw [mem_idsAt_of_findAll hline hfind, scope, ofKeyword_keyword]

/-- The only directive on a line with two written ones: the first one, with the name of the tool as
one more id.

**Proof sketch.** The list of the first directive goes on over the blank and the name of the tool
and ends at the colon of the second one. Behind that colon there is none left, hence no opening. -/
lemma findAll_pair (first second : Written) :
    findAll ("# " ++ first.text ++ " " ++ second.text).toList =
      [⟨first.scope.keyword.toList, first.ids ++ ["sloplint"]⟩] := by
  have hline : ("# " ++ first.text ++ " " ++ second.text).toList =
      "# ".toList ++ (first.text.toList ++ (' ' :: "sloplint".toList ++
        (':' :: ' ' :: (second.scope.keyword.toList ++ '=' :: second.list)))) := by
    have hopening : opening.toList = "sloplint".toList ++ [':'] := by decide
    have hblank : " ".toList = [' '] := rfl
    simp only [String.toList_append, second.toList_text, hopening, hblank, List.append_assoc,
      List.cons_append, List.nil_append]
  have hids : idsOf (first.list ++ ' ' :: "sloplint".toList) = first.ids ++ ["sloplint"] := by
    rw [idsOf_append_cons (by decide), Written.list, idsOf_joinWith first.ids_isKebab,
      idsOf_of_isKebab (by decide)]
  have hrest :
      findAll (':' :: ' ' :: (second.scope.keyword.toList ++ '=' :: second.list)) = [] := by
    rw [findAll_cons_of_read?_eq_none (read?_cons_eq_none (by decide) _),
      findAll_cons_of_read?_eq_none (read?_cons_eq_none (by decide) _),
      findAll_eq_nil second.colon_not_mem_tail]
  have hcolon : ∀ c ∈ (':' :: ' ' :: (second.scope.keyword.toList ++ '=' :: second.list)).head?,
      isIdListChar c = false := by
    simp only [List.head?_cons, Option.mem_def, Option.some.injEq, forall_eq']
    decide
  rw [hline, first.findAll_comment _ _ (List.all_eq_true.1 (by decide)) hcolon, hids, hrest]

/-- What two written directives on one line mute: the ids of the first one and the name of the
tool, in the place of the first one's scope. -/
lemma mem_idsAt_pair (first second : Written) (number : Int) {place : Option Int} {id : String} :
    id ∈ (ofComments [(number, ("# " ++ first.text ++ " " ++ second.text).toList)]).idsAt place ↔
      place = first.scope.place number ∧ (id ∈ first.ids ∨ id = "sloplint") := by
  have hline : '\n' ∉ ("# " ++ first.text ++ " " ++ second.text).toList := by
    simp only [String.toList_append, List.mem_append, not_or]
    exact ⟨⟨⟨by decide, first.newline_not_mem_text⟩, by decide⟩, second.newline_not_mem_text⟩
  rw [mem_idsAt_of_findAll hline (findAll_pair first second), scope, ofKeyword_keyword,
    List.mem_append, List.mem_singleton]

/-- Two scopes never mute in the same place from the same line. -/
lemma place_injective {s t : Scope} {number : Int} (h : s.place number = t.place number) :
    s = t := by
  cases s <;> cases t <;>
    simp only [Scope.place, Option.some.injEq, reduceCtorEq] at h ⊢ <;> omega

/-- **When a line with two directives mutes what they mute on their own.** The line mutes the ids
of the first directive and the name of the tool, in the place of the first one's scope. This is what
both directives mute on their own exactly when they have the same scope, every id of the second one
is an id of the first or the name of the tool, and the name of the tool is an id of one of them.

**Proof sketch.** The three sets of muted ids are known (`mem_idsAt_written`, `mem_idsAt_pair`). An
id of the second directive, of which there is one, has to be muted in its own place, so the scopes
agree; the ids are then compared in that place. -/
theorem pair_mutes_union_iff (first second : Written) (number : Int) :
    (∀ place id,
      id ∈ (ofComments [(number, ("# " ++ first.text ++ " " ++ second.text).toList)]).idsAt place ↔
        place = first.scope.place number ∧ (id ∈ first.ids ∨ id = "sloplint")) ∧
    ((∀ place id,
      id ∈ (ofComments [(number, ("# " ++ first.text ++ " " ++ second.text).toList)]).idsAt place ↔
        id ∈ (ofComments [(number, ("# " ++ first.text).toList)]).idsAt place ∨
          id ∈ (ofComments [(number, ("# " ++ second.text).toList)]).idsAt place) ↔
      first.scope = second.scope ∧ (∀ id ∈ second.ids, id ∈ first.ids ∨ id = "sloplint") ∧
        ("sloplint" ∈ first.ids ∨ "sloplint" ∈ second.ids)) := by
  refine ⟨fun place id => mem_idsAt_pair first second number, ?_⟩
  simp only [mem_idsAt_pair, mem_idsAt_written]
  constructor
  · intro hunion
    obtain ⟨id, hid⟩ := List.exists_mem_of_ne_nil _ second.ids_ne_nil
    have hplace := ((hunion (second.scope.place number) id).2 (.inr ⟨rfl, hid⟩)).1
    have hscope := place_injective hplace
    refine ⟨hscope.symm, fun id hid => ?_, ?_⟩
    · exact ((hunion _ id).2 (.inr ⟨rfl, hid⟩)).2
    · rcases (hunion (first.scope.place number) "sloplint").1 ⟨rfl, .inr rfl⟩ with hfirst | hsecond
      · exact .inl hfirst.2
      · exact .inr hsecond.2
  · rintro ⟨hscope, hsubset, htool⟩ place id
    rw [← hscope]
    constructor
    · rintro ⟨hplace, hid | rfl⟩
      · exact .inl ⟨hplace, hid⟩
      · exact htool.imp (fun h => ⟨hplace, h⟩) (fun h => ⟨hplace, h⟩)
    · rintro (⟨hplace, hid⟩ | ⟨hplace, hid⟩)
      · exact ⟨hplace, .inl hid⟩
      · exact ⟨hplace, hsubset id hid⟩

/-- A directive that mutes a rule on its line. -/
def forLine : Written :=
  ⟨.line, ["step-comment"], by decide, by decide⟩

/-- A directive that mutes a rule in the whole file. -/
def forFile : Written :=
  ⟨.file, ["obvious-comment"], by decide, by decide⟩

/-- The second directive alone mutes a rule in the whole file. Behind the first one it does not. -/
theorem second_directive_lost :
    "obvious-comment" ∈ (ofComments [(1, ("# " ++ forFile.text).toList)]).fileIds ∧
      "obvious-comment" ∉
        (ofComments [(1, ("# " ++ forLine.text ++ " " ++ forFile.text).toList)]).fileIds := by
  unfold fileIds
  rw [mem_idsAt_written, mem_idsAt_pair]
  exact ⟨by decide, by decide⟩

end Suppressions

end SourceLint
