import SourceLint.Pattern.Derivative

set_option autoImplicit false

/-!
# Phrases of empty comments

Every comment rule looks for comments that open with certain phrases. The phrases are patterns in
any letter case; a comment is found when its delimiter, any number of blanks and a phrase stand at
its start, whatever follows.

## Main definitions

* `CommentRule` — the kinds of comments that are found.
* `CommentRule.delimiter` — what such a comment starts with.
* `CommentRule.phrase` — the phrases that follow.
* `CommentRule.pattern` — the start of a comment that is found.
-/

namespace SourceLint

/-- The kinds of comments that say nothing. -/
inductive CommentRule
  /-- Restates the code beneath it. -/
  | obvious
  /-- Tells what a function or type is for. -/
  | narrator
  /-- Numbers the steps of a function. -/
  | step
  /-- Divides a file into sections. -/
  | divider
  /-- Stands for code that was left out. -/
  | placeholder
  /-- Apologises for the code. -/
  | apologetic
  /-- Was left by an assistant in place of code. -/
  | generated
deriving DecidableEq, Repr

namespace CommentRule

open Pattern

/-- The comment rules in the order in which they are tried and listed. -/
def all : List CommentRule :=
  [.obvious, .narrator, .step, .divider, .placeholder, .apologetic, .generated]

/-- What a line comment starts with. -/
def lineDelimiter : Pattern :=
  anyOf (["//", "#"].map exactText)

/-- What a line or block comment starts with. -/
def anyDelimiter : Pattern :=
  anyOf (["//", "#", "/*", "/**"].map exactText)

/-- What a comment of the kind starts with. -/
def delimiter : CommentRule → Pattern
  | .divider => lineDelimiter
  | _ => anyDelimiter

/-- A verb that restates the code, and a blank. -/
def obviousPhrase : Pattern :=
  chain [
    anyOf [
      texts ["initialize", "create", "handle", "process", "validate", "update", "return", "get",
        "gets", "get the", "store", "add", "increment", "decrement", "define", "declare", "assign",
        "call", "invoke", "import", "export", "render", "fetch", "send", "remove", "delete",
        "destroy", "free", "reset", "clear", "toggle", "convert", "parse", "format", "calculate",
        "compute", "extract", "merge", "sort", "filter", "map", "transform", "append", "prepend",
        "push", "pop", "insert", "set the", "allocate", "malloc", "realloc"],
      chain [text "set", optional blank, text "up"],
      chain [text "check", blank, texts ["if", "whether"]],
      chain [text "loop", blank, texts ["through", "over"]],
      chain [text "iterate", blank, texts ["through", "over"]],
      chain [text "set", blank, plus (.one .word), blank, text "to"]],
    blank]

/-- What the narrated things are called. -/
def narratedThing : Pattern :=
  texts ["function", "method", "class", "component", "hook", "module", "handler", "helper",
    "utility", "service", "middleware", "guard", "interceptor", "decorator", "factory", "provider",
    "controller", "resolver", "validator", "pipe", "filter", "struct", "enum", "trait", "impl",
    "macro", "typedef", "interface"]

/-- What the narrated things are said to do. -/
def narratedDeed : Pattern :=
  anyOf [
    spaced [text "is", text "responsible", text "for"],
    spaced [text "is", text "used", text "to"],
    spaced [text "sets", text "up"],
    texts ["will", "handles", "creates", "initializes", "processes", "validates", "returns",
      "manages", "provides", "defines", "takes", "accepts", "receives", "implements", "extends",
      "overrides", "wraps", "delegates", "dispatches", "emits", "triggers", "invokes", "calls",
      "renders", "fetches", "sends", "removes", "deletes", "frees", "updates", "checks", "ensures",
      "converts", "parses", "formats", "calculates", "computes", "extracts", "merges", "sorts",
      "filters", "maps", "transforms"]]

/-- This thing does something. -/
def narratorPhrase : Pattern :=
  spaced [text "this", narratedThing, narratedDeed]

/-- The word "step" and a number. -/
def stepPhrase : Pattern :=
  chain [text "step", someBlanks, .one .digit]

/-- The titles of sections that may also stand in the plural. -/
def countedSection : Pattern :=
  chain [
    texts ["helper", "util", "type", "interface", "constant", "export", "import", "method",
      "function", "handler", "hook", "prop", "style", "route", "event", "callback", "mutation",
      "action", "getter", "selector", "reducer", "effect", "subscription", "trait", "struct",
      "enum", "test", "mod", "model", "macro"],
    optional (text "s")]

/-- The titles of sections. -/
def sectionTitle : Pattern :=
  anyOf [
    countedSection,
    texts ["state", "config", "setup", "init", "main", "private", "public", "api", "middleware",
      "validation", "rendering", "lifecycle", "impl"]]

/-- A hyphen. -/
def hyphen : Pattern := .one (.exactly '-')

/-- A hash sign. -/
def hash : Pattern := .one (.exactly '#')

/-- A rule of at least three signs, a heading of up to three hashes, or a section title after
hyphens. -/
def dividerPhrase : Pattern :=
  anyOf [
    atLeast 3 (.one (.oneOf ['-', '=', '~', '#', '*'])),
    chain [hash, optional hash, optional hash, blank],
    chain [atLeast 2 hyphen, blanks, sectionTitle, blanks, .star hyphen]]

/-- An ellipsis with a word for what was left out, or a remark on leaving it out. -/
def placeholderPhrase : Pattern :=
  anyOf [
    chain [
      anyOf (["...", "…"].map exactText),
      blanks,
      texts ["rest of", "more", "remaining", "implementation", "logic", "code", "here",
        "functionality", "similarly", "and so on", "etc", "as above"]],
    spaced [texts ["omitted", "truncated"], text "for", text "brevity"],
    text "implementation details omitted",
    chain [text "repeat ", texts ["for each", "as needed"]],
    chain [text "handle ", texts ["other", "remaining"], text " cases similarly"],
    text "similar for other cases"]

/-- An apology for the code. -/
def apologeticPhrase : Pattern :=
  anyOf [
    chain [text "sorry", optional (text ","), text " this is a ", optional (text "quick "),
      text "hack"],
    chain [texts ["quick", "ugly", "dirty", "nasty"], text " hack"],
    chain [texts ["quick", "dirty", "naive"], text " solution"],
    text "not the best way but works",
    text "I know this is bad",
    chain [texts ["temporary", "temp"], text " ",
      texts ["fix", "workaround", "solution", "implementation", "code"]],
    chain [texts ["fix", "refactor", "implement", "do", "clean up"], text " ",
      optional (text "this "), text "later"],
    chain [texts ["good", "fine", "okay", "ok", "simple", "works", "good enough"],
      text " for now"],
    chain [text "simplified ", texts ["version", "implementation", "logic"]],
    chain [texts ["basic", "minimal", "naive"], text " approach"],
    text "just a placeholder"]

/-- A sentence that an assistant leaves in place of code. -/
def generatedPhrase : Pattern :=
  anyOf [
    chain [text "As an AI", optional (text ","), text " I cannot"],
    chain [text "I'll leave this for you to ", texts ["implement", "complete", "finish"]],
    text "You'll need to add your own",
    chain [text "Replace this with your ", texts ["actual", "real", "own"],
      text " implementation"],
    chain [text "Add your ", texts ["code", "logic"], text " here"],
    chain [text "Insert your ", texts ["logic", "code", "handling"], text " here"],
    chain [text "Customize ", texts ["as needed", "according to your needs"]],
    chain [text "Modify ", texts ["according to", "based on"], text " your needs"],
    chain [text "This is a ", texts ["simplified", "basic", "example"], text " ",
      texts ["example", "version", "implementation"]],
    chain [text "In a real application", optional (text ","), text " you ",
      texts ["would", "should"]],
    chain [text "For production", optional (text ","), text " ",
      texts ["consider", "make sure to"]],
    chain [text "In practice", optional (text ","), text " you ",
      texts ["should", "might want to"]],
    text "This is just a starting point"]

/-- The phrases that follow the delimiter of a comment of the kind. -/
def phrase : CommentRule → Pattern
  | .obvious => obviousPhrase
  | .narrator => narratorPhrase
  | .step => stepPhrase
  | .divider => dividerPhrase
  | .placeholder => placeholderPhrase
  | .apologetic => apologeticPhrase
  | .generated => generatedPhrase

/-- The start of a comment of the kind: delimiter, blanks and phrase. -/
def pattern (rule : CommentRule) : Pattern :=
  chain [rule.delimiter, blanks, rule.phrase]

end CommentRule

end SourceLint
