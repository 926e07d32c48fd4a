import SourceLint.Language.Basic

set_option autoImplicit false

/-!
# The supported languages

The ten languages in the order in which they are listed, and the ways to find one: by its name, by
a file extension, or by the extensions of a selection of languages. Names and extensions are found
in any letter case and with blanks around them.

## Main definitions

* `Language.all` — the supported languages.
* `Language.ofId?` — the language of a name.
* `Language.ofExtension?` — the language of a file extension.
* `Language.enabledExtensions` — the extensions of a selection of languages.
-/

namespace SourceLint.Language

/-- Directives of the tools for typed scripts. -/
def typedScriptDirectives : ToolDirectives where
  spellings := [["eslint"], ["prettier"], ["@ts-"], ["istanbul"], ["c8"], ["vitest"], ["jest"],
    ["biome"], ["oxlint"]]

/-- Directives of the tools for the C family. -/
def cFamilyDirectives : ToolDirectives where
  spellings := [["NOLINT"], ["NOLINTNEXTLINE"], ["clang-format"], ["IWYU"], ["pragma"]]

/-- The supported languages, in the order of listings. -/
def all : List Language :=
  [{ id := "typescript"
     grammar := "typescript"
     commentKinds := ["comment"]
     extensions := [".ts", ".mts", ".cts"]
     toolDirectives := typedScriptDirectives },
   { id := "tsx"
     grammar := "tsx"
     commentKinds := ["comment"]
     extensions := [".tsx"]
     toolDirectives := typedScriptDirectives },
   { id := "javascript"
     grammar := "javascript"
     commentKinds := ["comment"]
     extensions := [".js", ".jsx", ".mjs", ".cjs"]
     toolDirectives := { spellings := [["eslint"], ["prettier"], ["istanbul"], ["c8"], ["vitest"],
       ["jest"], ["webpack"], ["biome"], ["oxlint"]] } },
   { id := "python"
     grammar := "python"
     commentKinds := ["comment"]
     extensions := [".py", ".pyi"]
     toolDirectives := { spellings := [["noqa"], ["type:", "ignore"], ["pylint"], ["mypy"],
       ["pyright"], ["ruff"], ["fmt"], ["isort"]] } },
   { id := "go"
     grammar := "go"
     commentKinds := ["comment"]
     extensions := [".go"]
     toolDirectives := { spellings := [["nolint"], ["go:generate"], ["go:build"], ["go:embed"],
       ["gofmt"], ["govet"]] } },
   { id := "rust"
     grammar := "rust"
     commentKinds := ["line_comment", "block_comment"]
     extensions := [".rs"]
     toolDirectives := { spellings := [["clippy"], ["allow"], ["deny"], ["forbid"], ["expect"],
       ["cfg"], ["rustfmt"], ["SAFETY"], ["safety"]], anyCase := false } },
   { id := "c"
     grammar := "c"
     commentKinds := ["comment"]
     extensions := [".c", ".h"]
     toolDirectives := cFamilyDirectives },
   { id := "cpp"
     grammar := "cpp"
     commentKinds := ["comment"]
     extensions := [".cpp", ".cc", ".cxx", ".hpp", ".hh", ".hxx"]
     toolDirectives := cFamilyDirectives },
   { id := "java"
     grammar := "java"
     commentKinds := ["line_comment", "block_comment"]
     extensions := [".java"]
     toolDirectives := { spellings := [["checkstyle"], ["SuppressWarnings"], ["PMD"], ["SpotBugs"],
       ["NOSONAR"], ["noinspection"]] } },
   { id := "ruby"
     grammar := "ruby"
     commentKinds := ["comment"]
     extensions := [".rb", ".rake"]
     toolDirectives := { spellings := [["rubocop"], ["sorbet"], ["sig"], ["steep"], ["yard"],
       [":nocov:"], ["frozen_string_literal"]] } }]

/-- The names of the supported languages. -/
def ids : List String :=
  all.map (·.id)

/-- A name or extension as it is looked up: without blanks at its ends and in lower case. -/
def normalized (name : String) : String :=
  Text.lowerString (Text.stripString name)

/-- The language of a name. -/
def ofId? (name : String) : Option Language :=
  all.find? (·.id == normalized name)

/-- The language that claims an extension, given in lower case and with its dot. -/
def claiming? (extension : String) : Option Language :=
  all.find? (·.extensions.contains extension)

/-- The language of a file extension, with or without its dot. -/
def ofExtension? (extension : String) : Option Language :=
  match (normalized extension).toList with
  | [] => none
  | '.' :: rest => claiming? (String.ofList ('.' :: rest))
  | rest => claiming? (String.ofList ('.' :: rest))

/-- The extensions of a selection of languages, in the order of listings. -/
def enabledExtensions (names : List String) : List String :=
  let enabled := names.map normalized
  (all.filter fun language => enabled.contains language.id).flatMap (·.extensions)

end SourceLint.Language
