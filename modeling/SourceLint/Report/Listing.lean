import SourceLint.Json.Printer
import SourceLint.Report.Console
import SourceLint.Rule.Catalogue
import SourceLint.Settings

set_option autoImplicit false

/-!
# Listings of rules and languages

What the linter knows, for people as a table and for other programs as a JSON document.

## Main definitions

* `Listing.rules` — the listing of the rules.
* `Listing.languages` — the listing of the languages.
-/

namespace SourceLint.Listing

/-- The languages of a rule in a table. -/
def languagesCell (info : RuleInfo) : String :=
  match info.languages with
  | some languages => Text.joinWith ", " languages
  | none => "all"

/-- The table of the rules. -/
def ruleTable : Table where
  title := "sloplint rules"
  heading := ["ID", "Kind", "Languages", "Title"]
  rows := Rule.all.map fun rule =>
    [rule.id, rule.info.category.name, languagesCell rule.info, rule.info.title]

/-- The record of a rule. -/
def ruleRecord (info : RuleInfo) : Json :=
  .object [
    ("rule_id", .string info.id),
    ("category", .string info.category.name),
    ("title", .string info.title),
    ("message", .string info.message),
    ("note", .string info.note),
    ("languages", .ofOption .ofStrings info.languages)]

/-- The listing of the rules. -/
def rules (console : Console) : OutputFormat → String
  | .terminal => console.table ruleTable
  | .json => (Json.ofList ruleRecord (Rule.all.map (·.info))).render ++ "\n"

/-- The handler kinds of a language in a table. -/
def handlerCell (language : Language) : String :=
  if language.handlerKinds.isEmpty then "-" else Text.joinWith ", " language.handlerKinds

/-- The table of the languages. -/
def languageTable : Table where
  title := "sloplint languages"
  heading := ["ID", "Extensions", "Comment kinds", "Handler kinds"]
  rows := Language.all.map fun language =>
    [language.id, Text.joinWith " " language.extensions, Text.joinWith ", " language.commentKinds,
      handlerCell language]

/-- The record of a language. -/
def languageRecord (language : Language) : Json :=
  .object [
    ("id", .string language.id),
    ("grammar", .string language.grammar),
    ("extensions", .ofStrings language.extensions),
    ("comment_kinds", .ofStrings language.commentKinds),
    ("handler_kinds", .ofStrings language.handlerKinds),
    ("tool_directives", .string language.toolDirectives.notationText)]

/-- The listing of the languages. -/
def languages (console : Console) : OutputFormat → String
  | .terminal => console.table languageTable
  | .json => (Json.ofList languageRecord Language.all).render ++ "\n"

end SourceLint.Listing
