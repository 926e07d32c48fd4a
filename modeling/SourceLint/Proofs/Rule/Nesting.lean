import SourceLint.Proofs.Rule.Content

set_option autoImplicit false

/-!
# Output in nested handlers

A handler prints when there is a plain output call anywhere in the subtree of its body: in the body
itself, or below it at any depth. What stands in between makes no difference, and in particular it
may be another handler. So a handler inside the body of another one is found together with it: the
finding on the inner handler is one on the outer handler, and on every handler around that.

Trees are walked with a stack. What the walk visits is told here without the stack, by the steps
from a node to its children.

## Main definitions

* `Node.Holds` — a node stands in the subtree of another one.
* `HandlerRule.PrintsBy` — a call is a plain output call of a family.

## Main results

* `Node.mem_walk_iff` — a walk visits the subtree.
* `HandlerRule.check_output_eq_some_iff` — the handlers that print.
* `HandlerRule.output_spreads_outwards` — a handler around one that prints prints as well.
-/

namespace SourceLint

/-! ### Subtrees -/

namespace Node

/-- A node stands in the subtree of another one: any number of steps to a child lead there. Every
node stands in its own subtree. -/
def Holds (root node : Node) : Prop :=
  Relation.ReflTransGen (fun parent child => child ∈ parent.children) root node

/-- A subtree has its root, and the subtrees of the root's children. -/
lemma holds_iff {root node : Node} :
    root.Holds node ↔ root = node ∨ ∃ child ∈ root.children, child.Holds node :=
  Relation.ReflTransGen.cases_head_iff

/-- From a stack of nodes a walk visits what stands in their subtrees.

**Proof sketch.** Induction along the walk. The subtree of the node on top has this node and the
subtrees of its children, and the children are what takes its place on the stack. -/
lemma mem_visit_iff {stack : List Node} {node : Node} :
    node ∈ visit stack ↔ ∃ root ∈ stack, root.Holds node := by
  fun_induction visit stack with
  | case1 => simp
  | case2 root rest ih =>
    rw [List.mem_cons, ih, eq_comm]
    simp only [List.mem_append, List.mem_cons, or_and_right, exists_or, exists_eq_left]
    rw [← or_assoc, ← holds_iff]

/-- **A walk visits the subtree**, and nothing else. -/
lemma mem_walk_iff {root node : Node} : node ∈ root.walk ↔ root.Holds node := by
  rw [walk, mem_visit_iff]
  simp

end Node

/-- The body of a handler, whichever child it is, stands in the subtree of the handler. -/
lemma HandlerFamily.holds_body {family : HandlerFamily} {handler body : Node}
    (h : family.body? handler = some body) : handler.Holds body := by
  rw [body?_eq_find?] at h
  exact .single (List.mem_of_find?_eq_some h)

/-! ### Handlers that print -/

namespace HandlerRule

variable {family : HandlerFamily} {source : Source} {handler : Node} {found : Finding}

/-- A call is a plain output call: it has arguments, and what stands before them is, but for blanks,
what the family calls for output. -/
structure PrintsBy (family : HandlerFamily) (source : Source) (call arguments : Node) : Prop where
  kind : call.kind ∈ family.callKinds
  field : call.childOfField? "arguments" = some arguments
  callee : ∃ callee ∈ family.outputCallees,
    (source.textBetween call.start arguments.start).filter (fun c => !Text.isBlank c) =
      callee.toList

/-- Output calls are recognised as they are meant. -/
lemma isOutputCall_iff {call : Node} :
    isOutputCall family source call = true ↔ ∃ arguments, PrintsBy family source call arguments := by
  rw [isOutputCall, Bool.and_eq_true, List.contains_iff_mem, Option.any_eq_true]
  constructor
  · rintro ⟨hkind, callee, hcallee, hmem⟩
    obtain ⟨arguments, harguments, rfl⟩ := Option.map_eq_some_iff.1 hcallee
    exact ⟨arguments, hkind, harguments, _, List.contains_iff_mem.1 hmem,
      String.toList_ofList.symm⟩
  · rintro ⟨arguments, hkind, harguments, callee, hmem, htext⟩
    refine ⟨hkind, callee, ?_, List.contains_iff_mem.2 hmem⟩
    rw [callee?, harguments, Option.map_some, Text.withoutBlanks, htext, String.ofList_toList]

/-- **The handlers that print** are those with an output call in the subtree of their body. -/
lemma check_output_eq_some_iff
    (hlanguage : HandlerFamily.ofLanguage? source.language.id = some family)
    (hkind : handler.kind ∈ family.handlerKinds) :
    check .output source handler = some found ↔
      found = finding .output family ∧
        ∃ body call arguments, family.body? handler = some body ∧ body.Holds call ∧
          PrintsBy family source call arguments := by
  have hfamily : familyOf? source handler = some family :=
    Option.filter_eq_some_iff.2 ⟨hlanguage, by simpa using hkind⟩
  rw [check_of_familyOf? hfamily, checkHandler, Option.ite_none_right_eq_some, Option.some_inj,
    Option.any_eq_true, and_comm, eq_comm]
  refine and_congr_right fun _ => ?_
  constructor
  · rintro ⟨body, hbody, hany⟩
    obtain ⟨call, hcall, houtput⟩ := List.any_eq_true.1 hany
    obtain ⟨arguments, hprints⟩ := isOutputCall_iff.1 houtput
    exact ⟨body, call, arguments, hbody, Node.mem_walk_iff.1 hcall, hprints⟩
  · rintro ⟨body, call, arguments, hbody, hholds, hprints⟩
    exact ⟨body, hbody, List.any_eq_true.2
      ⟨call, Node.mem_walk_iff.2 hholds, isOutputCall_iff.2 ⟨arguments, hprints⟩⟩⟩

/-- **Output spreads outwards.** A handler prints exactly when some node in the subtree of its body
is a call of the family's kinds that has arguments and, blanks aside, the text of an output callee
before them. And when a handler that prints stands anywhere in the subtree of the body of another
handler, that one prints as well, with the same finding.

**Proof sketch.** A walk of the body visits its subtree. The call that makes the inner handler print
stands in the subtree of the inner body, which stands in that of the inner handler, which stands in
that of the outer body. -/
theorem output_spreads_outwards (source : Source) (family : HandlerFamily)
    (hlanguage : HandlerFamily.ofLanguage? source.language.id = some family)
    (handler : Node) (hkind : handler.kind ∈ family.handlerKinds) :
    (∀ found, check .output source handler = some found ↔
      found = finding .output family ∧
        ∃ body call arguments, family.body? handler = some body ∧ body.Holds call ∧
          PrintsBy family source call arguments) ∧
    ∀ body inner found, family.body? handler = some body → body.Holds inner →
      check .output source inner = some found → check .output source handler = some found := by
  refine ⟨fun found => check_output_eq_some_iff hlanguage hkind, ?_⟩
  intro body inner found hbody hinner hfound
  obtain ⟨family', hlanguage', hkind', -⟩ := exists_family_of_check hfound
  obtain rfl : family = family' := Option.some.inj (hlanguage.symm.trans hlanguage')
  obtain ⟨hfinding, innerBody, call, arguments, hinnerBody, hcall, hprints⟩ :=
    (check_output_eq_some_iff hlanguage hkind').1 hfound
  have hdeep : body.Holds call :=
    hinner.trans ((HandlerFamily.holds_body hinnerBody).trans hcall)
  exact (check_output_eq_some_iff hlanguage hkind).2
    ⟨hfinding, body, call, arguments, hbody, hdeep, hprints⟩

/-- A source in which one handler stands inside another one, with a blank in its output call. -/
def nestedSource (language : Language) : Source :=
  .ofText "a.py" language "except A:\n try: f()\n except B: print (e)"

/-- The arguments of the output call. -/
def nestedArguments : Node :=
  ⟨"argument_list", true, 37, 40, 2, 17, some "arguments", []⟩

/-- The output call. -/
def nestedCall : Node :=
  ⟨"call", true, 31, 40, 2, 11, none,
    [⟨"identifier", true, 31, 36, 2, 11, some "function", []⟩, nestedArguments]⟩

/-- The inner handler, with the output call in its body. -/
def innerHandler : Node :=
  ⟨"except_clause", true, 21, 40, 2, 1, none, [⟨"identifier", true, 28, 29, 2, 8, none, []⟩,
    ⟨"block", true, 31, 40, 2, 11, none,
      [⟨"expression_statement", true, 31, 40, 2, 11, none, [nestedCall]⟩]⟩]⟩

/-- The outer handler, with the inner one in its body. -/
def outerHandler : Node :=
  ⟨"except_clause", true, 0, 40, 0, 0, none, [⟨"identifier", true, 7, 8, 0, 7, none, []⟩,
    ⟨"block", true, 11, 40, 1, 1, none,
      [⟨"try_statement", true, 11, 40, 1, 1, none, [innerHandler]⟩]⟩]⟩

/-- A handler that prints, in the body of another one that does nothing else. -/
theorem output_spreads_outwards_nested :
    ∃ language, Language.ofId? "python" = some language ∧
      HandlerFamily.ofLanguage? language.id = some .python ∧
      outerHandler.kind ∈ HandlerFamily.handlerKinds .python ∧
      (∃ body, HandlerFamily.body? .python outerHandler = some body ∧ body.Holds innerHandler) ∧
      check .output (nestedSource language) innerHandler = some (finding .output .python) ∧
      check .output (nestedSource language) outerHandler = some (finding .output .python) := by
  obtain ⟨language, hlanguage, hfamily, hprints⟩ :
      ∃ language, Language.ofId? "python" = some language ∧
        HandlerFamily.ofLanguage? language.id = some .python ∧
        PrintsBy .python (nestedSource language) nestedCall nestedArguments :=
    ⟨_, rfl, by decide, by decide, rfl, "print", by decide, by decide⟩
  have hcall : Node.Holds ⟨"block", true, 31, 40, 2, 11, none,
      [⟨"expression_statement", true, 31, 40, 2, 11, none, [nestedCall]⟩]⟩ nestedCall :=
    .head (List.mem_singleton_self _) (.single (List.mem_singleton_self _))
  have hinside : Node.Holds ⟨"block", true, 11, 40, 1, 1, none,
      [⟨"try_statement", true, 11, 40, 1, 1, none, [innerHandler]⟩]⟩ innerHandler :=
    .head (List.mem_singleton_self _) (.single (List.mem_singleton_self _))
  have hinner : check .output (nestedSource language) innerHandler =
      some (finding .output .python) :=
    (check_output_eq_some_iff hfamily (by decide)).2 ⟨rfl, _, _, _, rfl, hcall, hprints⟩
  have houter := (output_spreads_outwards (nestedSource language) .python hfamily outerHandler
    (by decide)).2 _ _ _ rfl hinside hinner
  exact ⟨language, hlanguage, hfamily, by decide, ⟨_, rfl, hinside⟩, hinner, houter⟩

end HandlerRule

end SourceLint
