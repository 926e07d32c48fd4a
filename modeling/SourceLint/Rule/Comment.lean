import SourceLint.Comment.Keep
import SourceLint.Comment.Phrase
import SourceLint.Diagnostic
import SourceLint.Rule.Basic

set_option autoImplicit false

/-!
# Comment rules

The comment rules look at one comment at a time. A comment is judged without the blanks at its
ends; an empty one is never found, nor is one that is kept on purpose.

## Main definitions

* `CommentRule.info` — the descriptions of the comment rules.
* `CommentRule.finds` — whether a comment text is found.
* `CommentRule.check` — the verdict on a node.
-/

namespace SourceLint.CommentRule

/-- The descriptions of the comment rules. -/
def info : CommentRule → RuleInfo
  | .obvious => {
      id := "obvious-comment"
      title := "Obvious comment"
      message := "Obvious comment — remove it, the code should speak for itself"
      note := "Comments should explain WHY or document non-obvious constraints, not restate WHAT. " ++
        "If the code isn't clear, rename variables or extract a well-named function."
      category := .comment
      languages := none }
  | .narrator => {
      id := "narrator-comment"
      title := "Narrator comment"
      message := "\"This function...\" comment — let the function name and signature tell the story"
      note := "A well-named function doesn't need a preamble. If behavior is non-obvious, " ++
        "explain WHY, not WHAT."
      category := .comment
      languages := none }
  | .step => {
      id := "step-comment"
      title := "Numbered step comment"
      message := "\"Step N:\" comment — the function is doing too much"
      note := "Numbered step comments suggest the function should be split. " ++
        "Extract each step into its own well-named function."
      category := .comment
      languages := none }
  | .divider => {
      id := "section-divider"
      title := "Section divider"
      message := "Section divider comment — extract into separate modules instead"
      note := "If your file needs section banners, it's probably too long. " ++
        "Split into separate files or modules."
      category := .comment
      languages := none }
  | .placeholder => {
      id := "placeholder-comment"
      title := "Placeholder comment"
      message := "Placeholder comment — this code is incomplete"
      note := "Comments like \"... rest of the code\" or \"omitted for brevity\" mean the " ++
        "implementation was never finished."
      category := .comment
      languages := none }
  | .apologetic => {
      id := "apologetic-comment"
      title := "Apologetic comment"
      message := "Apologetic comment — fix the code instead of apologizing for it"
      note := "Comments admitting \"this is a hack\" or \"good enough for now\" are a sign the code " ++
        "needs actual improvement, not an apology."
      category := .comment
      languages := none }
  | .generated => {
      id := "ai-generated-comment"
      title := "Unfinished assistant placeholder"
      message := "AI-generated placeholder — the AI left a note instead of writing the code"
      note := "The assistant admitted it didn't finish the job. Replace the comment with an " ++
        "actual implementation."
      category := .comment
      languages := none }

/-- Whether a comment with this text is found by the rule. -/
def finds (rule : CommentRule) (language : Language) (text : List Char) : Bool :=
  let bare := Text.strip text
  !bare.isEmpty && !Comment.isKept language bare && rule.pattern.acceptsPrefix bare

/-- The finding of a rule. -/
def finding (rule : CommentRule) : Finding where
  rule := rule.info.id
  message := rule.info.message
  note := rule.info.note

/-- The verdict of the rule on a node. -/
def check (rule : CommentRule) (source : Source) (node : Node) : Option Finding :=
  if source.language.isComment node.kind && rule.finds source.language (source.textOf node) then
    some rule.finding
  else none

end SourceLint.CommentRule
