set_option autoImplicit false

/-!
# What is known of a rule

Every rule has an id in lower-case words joined by hyphens, a title for listings, the message and
the note of its findings, and a category. Comment rules apply to all languages, structural rules to
those that have error handlers.

## Main definitions

* `RuleCategory` — comment rules and structural rules.
* `RuleInfo` — the description of a rule.
-/

namespace SourceLint

/-- Whether a rule looks at comments or at the structure of the code. -/
inductive RuleCategory
  | comment
  | structural
deriving DecidableEq, Repr

/-- The name of a category. -/
def RuleCategory.name : RuleCategory → String
  | .comment => "comment"
  | .structural => "structural"

/-- The description of a rule. -/
structure RuleInfo where
  id : String
  title : String
  message : String
  note : String
  category : RuleCategory
  /-- The languages that the rule applies to, in ascending order; all of them when none are
  given. -/
  languages : Option (List String)

/-- Whether a rule applies to a language. -/
def RuleInfo.appliesTo (info : RuleInfo) (language : String) : Bool :=
  match info.languages with
  | none => true
  | some languages => languages.contains language

end SourceLint
