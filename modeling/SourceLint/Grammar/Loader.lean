import SourceLint.Grammar.Parser
import SourceLint.Language.Basic
import SourceLint.Log.Logged

set_option autoImplicit false

/-!
# Loading grammars

Grammars are loaded on demand and remembered: up to 32 of them, the one used longest ago being
forgotten first. For every grammar with which a source was parsed, a parser is built once and kept.
Loading all grammars in advance is done once, and its answer is kept as well. Only successes are
remembered, and all is forgotten on a reset.

## Main definitions

* `GrammarSupply` — which grammars are missing, and for which no parser can be built.
* `NoParser` — why a loader has no parser to give.
* `Loader` — what has been remembered since the last reset.
* `Loader.fetch` — loads a grammar, or finds it among those remembered.
* `Loader.obtainParser` — builds a parser, or finds it among those kept.
* `Loader.parse` — parses a source.
* `Loader.preload` — loads the grammars of some languages in advance.
-/

namespace SourceLint

/-- Which grammars cannot be loaded, and for which ones building a parser fails, and how. -/
structure GrammarSupply where
  missing : List String := []
  unbuildable : List (String × Breakdown) := []

namespace GrammarSupply

/-- Whether a grammar can be loaded. -/
def isLoadable (supply : GrammarSupply) (grammar : String) : Bool :=
  !supply.missing.contains grammar

/-- How building a parser for a grammar fails. -/
def obstacle? (supply : GrammarSupply) (grammar : String) : Option Breakdown :=
  (supply.unbuildable.find? (·.1 == grammar)).map (·.2)

end GrammarSupply

/-- Why a loader has no parser to give. -/
inductive NoParser
  /-- The grammar cannot be loaded. -/
  | grammarMissing
  /-- Building the parser fails. -/
  | unbuildable (breakdown : Breakdown)
deriving DecidableEq, Repr

/-- What parsing a source comes to without a parser for its grammar. -/
def NoParser.outcome (grammar : String) : NoParser → ParseOutcome
  | .grammarMissing => .failed (.grammarMissing grammar)
  | .unbuildable breakdown => .ofBreakdown grammar breakdown

/-- Without a parser, parsing fails. -/
theorem NoParser.isFailure_outcome (grammar : String) :
    (cause : NoParser) → (cause.outcome grammar).IsFailure
  | .grammarMissing => fun _ => nofun
  | .unbuildable _ => ParseOutcome.isFailure_ofBreakdown

/-- What has been remembered since the last reset. -/
structure Loader where
  /-- The grammars loaded, the one used last in front. -/
  grammars : List String := []
  /-- The grammars for which a parser has been built. -/
  parsers : List String := []
  /-- The languages whose grammars were loaded in advance. -/
  preloaded : Option (List String) := none
deriving DecidableEq, Repr

/-- The outcome of a step: the loader after it, the grammars that were asked for while it ran,
failures included, the events it reported, and its answer. -/
structure LoaderStep (α : Type) where
  loader : Loader
  loads : List String
  events : List Event
  answer : α

namespace Loader

/-- The number of grammars that are remembered. -/
def capacity : Nat := 32

/-- Nothing remembered. -/
def fresh : Loader := {}

/-- Loads a grammar, or finds it among those remembered; the answer says whether it is there. A
grammar found or loaded moves to the front. -/
def fetch (supply : GrammarSupply) (grammar : String) (loader : Loader) : LoaderStep Bool :=
  if loader.grammars.contains grammar then
    ⟨{ loader with grammars := grammar :: loader.grammars.erase grammar }, [], [], true⟩
  else if supply.isLoadable grammar then
    ⟨{ loader with grammars := (grammar :: loader.grammars).take capacity }, [grammar], [], true⟩
  else ⟨loader, [grammar], [], false⟩

/-- Builds a parser for a grammar, or finds it among those kept; the answer says why there is no
parser, if it comes to that. -/
def obtainParser (supply : GrammarSupply) (grammar : String) (loader : Loader) :
    LoaderStep (Option NoParser) :=
  if loader.parsers.contains grammar then ⟨loader, [], [], none⟩
  else
    let fetched := loader.fetch supply grammar
    if fetched.answer then
      match supply.obstacle? grammar with
      | some breakdown => ⟨fetched.loader, fetched.loads, [], some (.unbuildable breakdown)⟩
      | none =>
        ⟨{ fetched.loader with parsers := grammar :: fetched.loader.parsers }, fetched.loads, [],
          none⟩
    else ⟨fetched.loader, fetched.loads, [], some .grammarMissing⟩

/-- The outcome of a parser's reply, and what is reported of it. -/
def judge (grammar : String) : ParserReply → Logged ParseOutcome
  | .tree root recovered => do
    if recovered then Logged.report (.recoveredTree grammar)
    return .parsed root
  | .nothing => return .failed (.noTree grammar)
  | .brokeDown breakdown => return .ofBreakdown grammar breakdown

/-- Parses a source, about which the parser replies as given. -/
def parse (supply : GrammarSupply) (grammar : String) (reply : ParserReply) (loader : Loader) :
    LoaderStep ParseOutcome :=
  let obtained := loader.obtainParser supply grammar
  match obtained.answer with
  | some cause => ⟨obtained.loader, obtained.loads, [], cause.outcome grammar⟩
  | none =>
    let judged := judge grammar reply
    ⟨obtained.loader, obtained.loads, judged.events, judged.value⟩

/-- Loads the grammars of languages one after the other; the answer names those that are there. -/
def fetchAll (supply : GrammarSupply) : List Language → Loader → LoaderStep (List String)
  | [], loader => ⟨loader, [], [], []⟩
  | language :: rest, loader =>
    let fetched := loader.fetch supply language.grammar
    let others := fetchAll supply rest fetched.loader
    if fetched.answer then
      ⟨others.loader, fetched.loads ++ others.loads, others.events, language.id :: others.answer⟩
    else
      ⟨others.loader, fetched.loads ++ others.loads,
        .grammarMissing language.grammar :: others.events, others.answer⟩

/-- Loads the grammars of languages in advance, unless that has been done before; the answer names
the languages whose grammars are there. -/
def preload (supply : GrammarSupply) (languages : List Language) (loader : Loader) :
    LoaderStep (List String) :=
  match loader.preloaded with
  | some loaded => ⟨loader, [], [], loaded⟩
  | none =>
    let fetched := fetchAll supply languages loader
    ⟨{ fetched.loader with preloaded := some fetched.answer }, fetched.loads,
      fetched.events ++ [.grammarsLoaded fetched.answer], fetched.answer⟩

end Loader

end SourceLint
