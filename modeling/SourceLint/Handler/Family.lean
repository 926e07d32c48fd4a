import SourceLint.Tree.Node

set_option autoImplicit false

/-!
# Families of error handlers

Languages that have exception handlers spell them in one of four ways. A family says which nodes
are handlers, where a handler's body is, which statements do nothing, and how a plain output call
looks. The same kind of node may belong to several families, so a family is always chosen by the
language of the file.

## Main definitions

* `HandlerFamily` — the ways to spell a handler.
* `HandlerFamily.ofLanguage?` — the family of a language.
* `HandlerFamily.body?` — the body of a handler.
-/

namespace SourceLint

/-- The ways to spell an exception handler. -/
inductive HandlerFamily
  | ecmascript
  | java
  | python
  | ruby
deriving DecidableEq, Repr

namespace HandlerFamily

/-- The families in order. -/
def all : List HandlerFamily :=
  [.ecmascript, .java, .python, .ruby]

/-- The name of a family. -/
def name : HandlerFamily → String
  | .ecmascript => "ecmascript"
  | .java => "java"
  | .python => "python"
  | .ruby => "ruby"

/-- The languages of a family. -/
def languages : HandlerFamily → List String
  | .ecmascript => ["typescript", "tsx", "javascript"]
  | .java => ["java"]
  | .python => ["python"]
  | .ruby => ["ruby"]

/-- The family of a language. -/
def ofLanguage? (language : String) : Option HandlerFamily :=
  all.find? (·.languages.contains language)

/-- The kinds of nodes that are handlers, in ascending order. -/
def handlerKinds : HandlerFamily → List String
  | .ecmascript => ["catch_clause"]
  | .java => ["catch_clause"]
  | .python => ["except_clause", "except_group_clause"]
  | .ruby => ["rescue"]

/-- The body of a handler: the child that fills a field, or the first child of a kind. -/
def body? : HandlerFamily → Node → Option Node
  | .ecmascript, handler => handler.childOfField? "body"
  | .java, handler => handler.childOfField? "body"
  | .python, handler => handler.childOfKind? "block"
  | .ruby, handler => handler.childOfKind? "then"

/-- Whether a handler without a body counts as empty. -/
def missingBodyIsEmpty : HandlerFamily → Bool
  | .ruby => true
  | _ => false

/-- The kinds of statements that do nothing. -/
def idleKinds : HandlerFamily → List String
  | .ecmascript => ["empty_statement"]
  | .java => []
  | .python => ["pass_statement"]
  | .ruby => ["nil"]

/-- The kinds of nodes that are calls. -/
def callKinds : HandlerFamily → List String
  | .ecmascript => ["call_expression"]
  | .java => ["method_invocation"]
  | .python => ["call"]
  | .ruby => ["call", "method_call"]

/-- What is called for plain output, without blanks. -/
def outputCallees : HandlerFamily → List String
  | .ecmascript => ["console.log"]
  | .java => ["System.out.println"]
  | .python => ["print"]
  | .ruby => ["puts", "p"]

/-- The kinds of nodes that are comments inside a handler. -/
def commentKinds : HandlerFamily → List String
  | .java => ["line_comment", "block_comment"]
  | _ => ["comment"]

/-- Whether a handler that names no exception also catches the signals that end the program. -/
def catchesSignals : HandlerFamily → Bool
  | .python => true
  | _ => false

end HandlerFamily

end SourceLint
