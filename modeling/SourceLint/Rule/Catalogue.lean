import SourceLint.Language.Catalogue
import SourceLint.Rule.Comment
import SourceLint.Rule.Handler

set_option autoImplicit false

/-!
# The rules

All rules in the order in which they are tried and listed: the comment rules, then the handler
rules.

## Main definitions

* `Rule` — a rule of either category.
* `Rule.all` — the rules in order.
* `Rule.ofId?` — the rule of an id.
* `Rule.check` — the verdict of a rule on a node.
* `Rule.handlersFor` — the handler rules that apply to a language.
-/

namespace SourceLint

/-- A rule of either category. -/
inductive Rule
  | comment (rule : CommentRule)
  | handler (rule : HandlerRule)
deriving DecidableEq, Repr

namespace Rule

/-- The comment rules in order. -/
def comments : List Rule :=
  CommentRule.all.map .comment

/-- The handler rules in order. -/
def handlers : List Rule :=
  HandlerRule.all.map .handler

/-- The rules in order. -/
def all : List Rule :=
  comments ++ handlers

/-- The description of a rule. -/
def info : Rule → RuleInfo
  | .comment rule => rule.info
  | .handler rule => rule.info

/-- The id of a rule. -/
def id (rule : Rule) : String :=
  rule.info.id

/-- The rule of an id. -/
def ofId? (id : String) : Option Rule :=
  all.find? (·.id == id)

/-- The verdict of a rule on a node. -/
def check (rule : Rule) (source : Source) (node : Node) : Option Finding :=
  match rule with
  | .comment rule => rule.check source node
  | .handler rule => rule.check source node

/-- The handler rules that apply to a language. -/
def handlersFor (language : String) : List Rule :=
  handlers.filter (·.info.appliesTo language)

end Rule

/-- The kinds of nodes that are error handlers in a language. -/
def Language.handlerKinds (language : Language) : List String :=
  match HandlerFamily.ofLanguage? language.id with
  | some family => family.handlerKinds
  | none => []

end SourceLint
