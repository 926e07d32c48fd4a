import SourceLint.Diagnostic
import SourceLint.Handler.Family
import SourceLint.Rule.Basic
import SourceLint.Text.Order

set_option autoImplicit false

/-!
# Handler rules

The structural rules look at one error handler at a time: whether it is empty, whether its only
statement does nothing, and whether it merely prints. A comment in the body counts as content, since
a handler that is empty for a stated reason is intended.

## Main definitions

* `HandlerRule` — the structural rules.
* `HandlerRule.info` — their descriptions.
* `HandlerRule.check` — the verdict on a node.
-/

namespace SourceLint

/-- The rules on error handlers. -/
inductive HandlerRule
  /-- The handler swallows errors. -/
  | empty
  /-- The only statement of the handler does nothing. -/
  | silent
  /-- The handler prints where it should report. -/
  | output
deriving DecidableEq, Repr

namespace HandlerRule

/-- The handler rules in the order in which they are tried and listed. -/
def all : List HandlerRule :=
  [.empty, .silent, .output]

/-- The languages that have error handlers. -/
def handlerLanguages : List String :=
  Text.sortStrings (HandlerFamily.all.flatMap (·.languages))

/-- The languages that have statements that do nothing. -/
def idleLanguages : List String :=
  Text.sortStrings
    ((HandlerFamily.all.filter fun family => !family.idleKinds.isEmpty).flatMap (·.languages))

/-- The descriptions of the handler rules. -/
def info : HandlerRule → RuleInfo
  | .empty => {
      id := "empty-error-handler"
      title := "Empty error handler"
      message := "Empty catch block silently swallows errors"
      note := "At minimum, log the error or add a comment explaining why it's safe to ignore."
      category := .structural
      languages := some handlerLanguages }
  | .silent => {
      id := "silent-exception"
      title := "Silently swallowed exception"
      message := "Silent exception swallowing — at minimum log the error"
      note := "A handler whose only statement does nothing hides bugs just like an empty one."
      category := .structural
      languages := some idleLanguages }
  | .output => {
      id := "log-in-error-handler"
      title := "Fire-and-forget logging in error handler"
      message := "console.log in catch — use console.error or a proper logger"
      note := "Plain output calls lose the error level; route handled errors through an " ++
        "error-aware logger."
      category := .structural
      languages := some handlerLanguages }

/-- The message of a rule in a family, where the family has its own words. -/
def messageFor : HandlerRule → HandlerFamily → String
  | .empty, .ruby => "Empty rescue block silently swallows errors"
  | .empty, .python => "Empty except block silently swallows errors"
  | .output, .java => "System.out.println in catch — use a logger or System.err"
  | .output, .python => "print() in except — use logging.exception or a proper logger"
  | .output, .ruby => "puts in rescue — use a logger or warn"
  | rule, _ => rule.info.message

/-- The finding of a rule in a family. -/
def finding (rule : HandlerRule) (family : HandlerFamily) : Finding where
  rule := rule.info.id
  message := rule.messageFor family
  note := rule.info.note

/-- The finding on a handler that catches everything. -/
def catchAllFinding : Finding where
  rule := (HandlerRule.info .empty).id
  message := "Bare except catches everything including KeyboardInterrupt and SystemExit"
  note := "Use `except Exception:` to avoid catching system-level exceptions."

/-- Whether a handler names what it catches: one of its named children is neither its body nor a
comment. A child is taken for the body when it has the body's start and kind. -/
def namesException (family : HandlerFamily) (handler : Node) : Bool :=
  handler.namedChildren.any fun child =>
    !((family.body? handler).any fun body => child.start == body.start && child.kind == body.kind)
      && !family.commentKinds.contains child.kind

/-- Whether a body holds no statement and no comment. -/
def isEmptyBody (body : Node) : Bool :=
  body.namedChildren.isEmpty

/-- Whether the only content of a body is a statement that does nothing. -/
def isIdleBody (family : HandlerFamily) (body : Node) : Bool :=
  match body.namedChildren with
  | [statement] => family.idleKinds.contains statement.kind
  | _ => false

/-- What a call with an argument list calls: its text before the arguments, without blanks. -/
def callee? (source : Source) (call : Node) : Option String :=
  (call.childOfField? "arguments").map fun arguments =>
    String.ofList (Text.withoutBlanks (source.textBetween call.start arguments.start))

/-- Whether a node is a plain output call. -/
def isOutputCall (family : HandlerFamily) (source : Source) (node : Node) : Bool :=
  family.callKinds.contains node.kind &&
    (callee? source node).any fun callee => family.outputCallees.contains callee

/-- The verdict of the rule on a handler of a family. -/
def checkHandler (rule : HandlerRule) (family : HandlerFamily) (source : Source) (handler : Node) :
    Option Finding :=
  match rule with
  | .empty =>
    if family.catchesSignals && !namesException family handler then some catchAllFinding
    else
      match family.body? handler with
      | none => if family.missingBodyIsEmpty then some (finding .empty family) else none
      | some body => if isEmptyBody body then some (finding .empty family) else none
  | .silent =>
    if (family.body? handler).any (isIdleBody family) then some (finding .silent family) else none
  | .output =>
    if (family.body? handler).any fun body => body.walk.any (isOutputCall family source) then
      some (finding .output family)
    else none

/-- The family of a handler node; none for other nodes and in languages without handlers. -/
def familyOf? (source : Source) (node : Node) : Option HandlerFamily :=
  (HandlerFamily.ofLanguage? source.language.id).filter (·.handlerKinds.contains node.kind)

/-- The verdict of the rule on a node. -/
def check (rule : HandlerRule) (source : Source) (node : Node) : Option Finding := do
  let family ← familyOf? source node
  rule.checkHandler family source node

end HandlerRule

end SourceLint
