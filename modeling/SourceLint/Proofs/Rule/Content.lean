import Mathlib.Logic.Relation
import SourceLint.Proofs.Rule.Reach

set_option autoImplicit false

/-!
# What counts as content of a handler

Two rules ask what a handler contains. One finds handlers without content, the other handlers whose
only content is a statement that does nothing. Such a statement is content, so the two rules never
agree on a handler because of its body. They do agree on one that catches everything, which the
first rule finds before it looks at the body; only Python has such handlers.

Content is what is named. Anonymous children of the body, which stand for mere tokens, may be put in
and taken out anywhere, and neither rule will notice.

## Main definitions

* `HandlerFamily.isBody` — whether a family takes a child for the body.
* `Node.AddsToken` — an anonymous child is put among others.
* `HandlerFamily.EditsBody` — two handlers differ in the anonymous children of the body.

## Main results

* `HandlerRule.checkHandler_empty_cases`, `HandlerRule.checkHandler_silent_cases` — what the two
  rules find.
* `HandlerFamily.EditsBody.checkHandler_eq` — neither rule notices anonymous children.
* `HandlerRule.lone_statement_is_content` — the two rules compared.
-/

namespace SourceLint

/-! ### What the two rules find -/

namespace HandlerRule

variable {family : HandlerFamily} {source : Source} {handler : Node} {found : Finding}

/-- A handler that is found empty catches everything, or its body has no content. -/
lemma checkHandler_empty_cases (h : checkHandler .empty family source handler = some found) :
    (family = .python ∧ found = catchAllFinding) ∨
      ∀ body, family.body? handler = some body → body.namedChildren = [] := by
  simp only [checkHandler] at h
  split at h
  · rename_i hall
    left
    refine ⟨?_, (Option.some.inj h).symm⟩
    cases family <;> simp [HandlerFamily.catchesSignals] at hall ⊢
  · right
    intro body hbody
    simp only [hbody, Option.ite_none_right_eq_some] at h
    exact List.isEmpty_iff.1 h.1

/-- A handler that is found silent has a body with one statement, which does nothing. -/
lemma checkHandler_silent_cases (h : checkHandler .silent family source handler = some found) :
    ∃ body statement, family.body? handler = some body ∧ body.namedChildren = [statement] ∧
      statement.kind ∈ family.idleKinds := by
  simp only [checkHandler, Option.ite_none_right_eq_some] at h
  obtain ⟨body, hbody, hidle⟩ := (Option.any_eq_true _ _).1 h.1
  unfold isIdleBody at hidle
  split at hidle
  · rename_i statement hcontent
    exact ⟨body, statement, hbody, hcontent, by simpa using hidle⟩
  · cases hidle

end HandlerRule

/-! ### Editing a body -/

/-- An anonymous child is put among others, at any place. -/
inductive Node.AddsToken : List Node → List Node → Prop
  | intro (before after : List Node) (token : Node) (h : token.named = false) :
      AddsToken (before ++ after) (before ++ token :: after)

/-- One anonymous child more makes no difference to the named ones. -/
lemma Node.AddsToken.filter_named_eq {children others : List Node}
    (h : AddsToken children others) :
    children.filter (·.named) = others.filter (·.named) := by
  cases h with
  | intro before after token htoken => simp [htoken]

/-- However many anonymous children are put in and taken out, the named ones stay. -/
lemma Node.filter_named_eq_of_eqvGen {children others : List Node}
    (h : Relation.EqvGen AddsToken children others) :
    children.filter (·.named) = others.filter (·.named) := by
  induction h with
  | rel _ _ hadds => exact hadds.filter_named_eq
  | refl => rfl
  | symm _ _ _ ih => exact ih.symm
  | trans _ _ _ _ _ ih₁ ih₂ => exact ih₁.trans ih₂

namespace HandlerFamily

/-- Whether a child is one that the family takes for the body of a handler. -/
def isBody : HandlerFamily → Node → Bool
  | .ecmascript, child => child.field == some "body"
  | .java, child => child.field == some "body"
  | .python, child => child.kind == "block"
  | .ruby, child => child.kind == "then"

/-- The body is the first child that can be taken for it. -/
lemma body?_eq_find? (family : HandlerFamily) (handler : Node) :
    family.body? handler = handler.children.find? family.isBody := by
  cases family <;> rfl

/-- A child is taken for the body whatever children it has itself. -/
lemma isBody_withChildren {family : HandlerFamily} {child : Node}
    (h : family.isBody child = true) (children : List Node) :
    family.isBody { child with children := children } = true := by
  cases family <;> exact h

/-- The first child that can be taken for the body is the body. -/
lemma body?_eq_some {family : HandlerFamily} (handler : Node) {body : Node} {before : List Node}
    (after : List Node) (hbefore : ∀ child ∈ before, family.isBody child = false)
    (hbody : family.isBody body = true) :
    family.body? { handler with children := before ++ body :: after } = some body := by
  rw [body?_eq_find?, List.find?_append, List.find?_eq_none.2, Option.none_or,
    List.find?_cons_of_pos hbody]
  intro child hchild
  simp [hbefore child hchild]

/-- Two handlers differ in the anonymous children of their body only: any number of them is put in
or taken out. -/
inductive EditsBody (family : HandlerFamily) : Node → Node → Prop
  | intro (handler body : Node) (before after children : List Node)
      (hbefore : ∀ child ∈ before, family.isBody child = false)
      (hbody : family.isBody body = true)
      (htokens : Relation.EqvGen Node.AddsToken body.children children) :
      EditsBody family { handler with children := before ++ body :: after }
        { handler with children := before ++ { body with children := children } :: after }

namespace EditsBody

variable {family : HandlerFamily} {source : Source} {handler other : Node}

/-- Editing the body of a handler keeps its kind. -/
lemma kind_eq (h : family.EditsBody handler other) : other.kind = handler.kind := by
  cases h with
  | intro => rfl

/-- Both handlers have a body, with the same content. -/
lemma exists_bodies (h : family.EditsBody handler other) :
    ∃ body edited, family.body? handler = some body ∧ family.body? other = some edited ∧
      edited.namedChildren = body.namedChildren := by
  cases h with
  | intro handler body before after children hbefore hbody htokens =>
    exact ⟨body, { body with children := children }, body?_eq_some handler after hbefore hbody,
      body?_eq_some handler after hbefore (isBody_withChildren hbody children),
      (Node.filter_named_eq_of_eqvGen htokens).symm⟩

/-- Whether a handler names what it catches is told from the starts and kinds of its children. -/
lemma namesException_eq (h : family.EditsBody handler other) :
    HandlerRule.namesException family other = HandlerRule.namesException family handler := by
  cases h with
  | intro handler body before after children hbefore hbody htokens =>
    rw [HandlerRule.namesException, HandlerRule.namesException,
      body?_eq_some handler after hbefore hbody,
      body?_eq_some handler after hbefore (isBody_withChildren hbody children)]
    cases hnamed : body.named <;> simp [Node.namedChildren, hnamed]

/-- **Neither rule notices anonymous children** of the body. -/
lemma checkHandler_eq (h : family.EditsBody handler other) {rule : HandlerRule}
    (hrule : rule = .empty ∨ rule = .silent) :
    rule.checkHandler family source other = rule.checkHandler family source handler := by
  obtain ⟨body, edited, hbody, hedited, hcontent⟩ := h.exists_bodies
  rcases hrule with rfl | rfl
  · have hempty : HandlerRule.isEmptyBody edited = HandlerRule.isEmptyBody body := by
      rw [HandlerRule.isEmptyBody, HandlerRule.isEmptyBody, hcontent]
    simp only [HandlerRule.checkHandler, h.namesException_eq, hbody, hedited, hempty]
  · have hidle : HandlerRule.isIdleBody family edited = HandlerRule.isIdleBody family body := by
      rw [HandlerRule.isIdleBody, HandlerRule.isIdleBody, hcontent]
    simp only [HandlerRule.checkHandler, hbody, hedited, Option.any_some, hidle]

end EditsBody

end HandlerFamily

/-! ### The two rules compared -/

namespace HandlerRule

variable {source : Source} {handler : Node} {found : Finding}

/-- The family of a node, once it is known, gives the verdict. -/
lemma check_of_familyOf? {rule : HandlerRule} {family : HandlerFamily}
    (h : familyOf? source handler = some family) :
    rule.check source handler = rule.checkHandler family source handler := by
  simp [check, h]

/-- Only the language of the family has handlers that catch everything. -/
lemma id_eq_of_familyOf? (h : familyOf? source handler = some .python) :
    source.language.id = "python" := by
  obtain ⟨hfamily, -⟩ := Option.filter_eq_some_iff.1 h
  simpa [HandlerFamily.languages] using (HandlerFamily.mem_languages_of_ofLanguage? hfamily).2

/-- A handler with content is found empty only if it catches everything. -/
lemma catchAll_of_check_empty {family : HandlerFamily} {body : Node}
    (hfamily : familyOf? source handler = some family)
    (hbody : family.body? handler = some body) (hcontent : body.namedChildren ≠ [])
    (h : check .empty source handler = some found) :
    source.language.id = "python" ∧ found = catchAllFinding := by
  rw [check_of_familyOf? hfamily] at h
  rcases checkHandler_empty_cases h with ⟨rfl, hfound⟩ | hempty
  · exact ⟨id_eq_of_familyOf? hfamily, hfound⟩
  · exact absurd (hempty body hbody) hcontent

/-- **A lone statement is content, even if it does nothing.** Where both rules find a handler, the
language is Python and the first rule says that the handler catches everything. Of a handler whose
body has two or more named children, nothing else is found by either rule. And both rules give the
same verdict on a handler when anonymous children are put into its body or taken out of it,
anywhere and however many.

**Proof sketch.** The second rule finds bodies with one named child only. With content in the body,
the first rule can only have found a handler that catches everything, and it says so in Python
alone. The rest of both verdicts is told from the named children of the body and from the starts and
kinds of the handler's own children. -/
theorem lone_statement_is_content (source : Source) (handler : Node) :
    (∀ found other, check .empty source handler = some found →
      check .silent source handler = some other →
      source.language.id = "python" ∧ found = catchAllFinding) ∧
    (∀ family body, familyOf? source handler = some family →
      family.body? handler = some body → 2 ≤ body.namedChildren.length →
      check .silent source handler = none ∧
        ∀ found, check .empty source handler = some found →
          source.language.id = "python" ∧ found = catchAllFinding) ∧
    (∀ family edited, familyOf? source handler = some family → family.EditsBody handler edited →
      check .empty source edited = check .empty source handler ∧
        check .silent source edited = check .silent source handler) := by
  refine ⟨?_, ?_, ?_⟩
  · intro found other hempty hsilent
    obtain ⟨family, hfamily, hcheck⟩ := Option.bind_eq_some_iff.1 hsilent
    obtain ⟨body, statement, hbody, hcontent, -⟩ := checkHandler_silent_cases hcheck
    exact catchAll_of_check_empty hfamily hbody (by simp [hcontent]) hempty
  · intro family body hfamily hbody htwo
    refine ⟨?_, fun found => catchAll_of_check_empty hfamily hbody ?_⟩
    · rw [check_of_familyOf? hfamily, Option.eq_none_iff_forall_ne_some]
      intro found hsilent
      obtain ⟨body', statement, hbody', hcontent, -⟩ := checkHandler_silent_cases hsilent
      obtain rfl : body = body' := Option.some.inj (hbody.symm.trans hbody')
      simp [hcontent] at htwo
    · rintro hnil
      simp [hnil] at htwo
  · intro family edited hfamily hedits
    have hfamily' : familyOf? source edited = some family := by
      rw [familyOf?, hedits.kind_eq]
      exact hfamily
    rw [check_of_familyOf? hfamily, check_of_familyOf? hfamily, check_of_familyOf? hfamily',
      check_of_familyOf? hfamily']
    exact ⟨hedits.checkHandler_eq (.inl rfl), hedits.checkHandler_eq (.inr rfl)⟩

/-- A token, which is anonymous. -/
def token (kind : String) : Node :=
  ⟨kind, false, 0, 0, 0, 0, none, []⟩

/-- A handler that names nothing and does nothing, with tokens in its body. -/
def passing (tokens : List Node) : Node :=
  let statement : Node := ⟨"pass_statement", true, 8, 12, 0, 8, none, []⟩
  ⟨"except_clause", true, 0, 12, 0, 0, none,
    [token "except", token ":", ⟨"block", true, 8, 12, 0, 8, none, statement :: tokens⟩]⟩

/-- A source for this handler; the rules on the content of handlers do not look at its bytes. -/
def passingSource (language : Language) : Source :=
  .ofText "a.py" language "except: pass"

/-- A handler that does nothing but pass, before and after a token is put into its body. -/
theorem lone_statement_is_content_passing :
    ∃ language, Language.ofId? "python" = some language ∧
      check .empty (passingSource language) (passing []) = some catchAllFinding ∧
      check .silent (passingSource language) (passing []) = some (finding .silent .python) ∧
      language.id = "python" ∧
      HandlerFamily.EditsBody .python (passing []) (passing [token ";"]) ∧
      check .silent (passingSource language) (passing [token ";"]) =
        some (finding .silent .python) := by
  obtain ⟨language, hlanguage, hfamily, hempty, hsilent⟩ :
      ∃ language, Language.ofId? "python" = some language ∧
        familyOf? (passingSource language) (passing []) = some .python ∧
        check .empty (passingSource language) (passing []) = some catchAllFinding ∧
        check .silent (passingSource language) (passing []) = some (finding .silent .python) :=
    ⟨_, rfl, by decide, by decide, by decide⟩
  have hedits : HandlerFamily.EditsBody .python (passing []) (passing [token ";"]) :=
    .intro (passing []) ⟨"block", true, 8, 12, 0, 8, none, _⟩ [token "except", token ":"] [] _
      (by decide) (by decide) (.rel _ _ (.intro [_] [] (token ";") rfl))
  obtain ⟨hboth, -, hsame⟩ := lone_statement_is_content (passingSource language) (passing [])
  exact ⟨language, hlanguage, hempty, hsilent, (hboth _ _ hempty hsilent).1, hedits,
    (hsame .python _ hfamily hedits).2.trans hsilent⟩

end HandlerRule

end SourceLint
