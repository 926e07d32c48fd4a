import Mathlib.Data.List.Basic
import SourceLint.Grammar.Session

set_option autoImplicit false

/-!
# What requests do to the memory of a loader

A loader looks grammars up one after the other. A grammar that is remembered moves to the front; any
other one is asked for, and is remembered from then on if there is such a grammar. However much a
request does, this is all that it does to the grammars remembered, unless it is a reset. Parsers are
added for the grammar of a source that is parsed, and never taken away.

## Main definitions

* `Loader.Looks` — grammars being looked up one after the other.
* `Loader.IsThere` — a grammar is remembered or can be loaded.

## Main results

* `Loader.fetch_of_mem`, `Loader.fetch_of_isLoadable`, `Loader.fetch_of_missing` — the three ways to
  look a grammar up.
* `Loader.parse_of_kept`, `Loader.parse_of_missing`, `Loader.parse_of_obstacle`,
  `Loader.parse_of_buildable` — the four ways to parse a source.
* `Session.looks_perform`, `Session.parsers_perform` — what a request does to the memory.
-/

namespace SourceLint

namespace Loader

variable {supply : GrammarSupply} {loader : Loader} {grammar : String}

/-! ### Looking a grammar up -/

/-- A grammar that is remembered is not asked for. -/
lemma fetch_of_mem (supply : GrammarSupply) (h : grammar ∈ loader.grammars) :
    loader.fetch supply grammar =
      ⟨{ loader with grammars := grammar :: loader.grammars.erase grammar }, [], [], true⟩ := by
  rw [fetch, if_pos (by simpa using h)]

/-- A grammar that is not remembered is loaded and remembered, if the supply has it. -/
lemma fetch_of_isLoadable (hnew : grammar ∉ loader.grammars)
    (hload : supply.isLoadable grammar = true) :
    loader.fetch supply grammar =
      ⟨{ loader with grammars := (grammar :: loader.grammars).take capacity }, [grammar], [],
        true⟩ := by
  rw [fetch, if_neg (by simpa using hnew), if_pos hload]

/-- A grammar that is missing leaves no trace. -/
lemma fetch_of_missing (hnew : grammar ∉ loader.grammars)
    (hload : supply.isLoadable grammar = false) :
    loader.fetch supply grammar = ⟨loader, [grammar], [], false⟩ := by
  rw [fetch, if_neg (by simpa using hnew), if_neg (by simp [hload])]

/-- A grammar is there: it is remembered, or it can be loaded. -/
def IsThere (supply : GrammarSupply) (loader : Loader) (grammar : String) : Prop :=
  grammar ∈ loader.grammars ∨ supply.isLoadable grammar = true

/-- A grammar is found if it is there. -/
lemma answer_fetch_iff (supply : GrammarSupply) (loader : Loader) (grammar : String) :
    (loader.fetch supply grammar).answer = true ↔ loader.IsThere supply grammar := by
  by_cases hmem : grammar ∈ loader.grammars
  · simp [fetch_of_mem supply hmem, IsThere, hmem]
  · cases hload : supply.isLoadable grammar with
    | true => simp [fetch_of_isLoadable hmem hload, IsThere, hload]
    | false => simp [fetch_of_missing hmem hload, IsThere, hmem, hload]

/-- A grammar that is there is remembered already, or is loaded at once. -/
lemma IsThere.mem_or_loaded (h : loader.IsThere supply grammar) :
    grammar ∈ loader.grammars ∨
      grammar ∈ (loader.fetch supply grammar).loads ∧ supply.isLoadable grammar = true := by
  by_cases hmem : grammar ∈ loader.grammars
  · exact .inl hmem
  · have hload := h.resolve_left hmem
    exact .inr ⟨by simp [fetch_of_isLoadable hmem hload], hload⟩

/-- Looking a grammar up keeps the parsers. -/
@[simp] lemma parsers_fetch (supply : GrammarSupply) (loader : Loader) (grammar : String) :
    (loader.fetch supply grammar).loader.parsers = loader.parsers := by
  unfold fetch
  split
  · rfl
  · split <;> rfl

/-- Looking a grammar up keeps the answer of the preloading. -/
@[simp] lemma preloaded_fetch (supply : GrammarSupply) (loader : Loader) (grammar : String) :
    (loader.fetch supply grammar).loader.preloaded = loader.preloaded := by
  unfold fetch
  split
  · rfl
  · split <;> rfl

/-! ### Looking grammars up one after the other -/

/-- Grammars are looked up one after the other: those remembered before, those that are asked for on
the way, and those remembered after. -/
inductive Looks (supply : GrammarSupply) (before : List String) : List String → List String → Prop
  /-- Nothing is looked up. -/
  | nothing : Looks supply before [] before
  /-- A grammar that is remembered moves to the front. -/
  | recalled {loads after : List String} {grammar : String} (h : Looks supply before loads after)
      (hmem : grammar ∈ after) : Looks supply before loads (grammar :: after.erase grammar)
  /-- A grammar that is not remembered is loaded; the one used longest ago may be forgotten. -/
  | loaded {loads after : List String} {grammar : String} (h : Looks supply before loads after)
      (hnew : grammar ∉ after) (hload : supply.isLoadable grammar = true) :
      Looks supply before (loads ++ [grammar]) ((grammar :: after).take capacity)
  /-- A grammar that is not remembered is missing. -/
  | missed {loads after : List String} {grammar : String} (h : Looks supply before loads after)
      (hnew : grammar ∉ after) (hload : supply.isLoadable grammar = false) :
      Looks supply before (loads ++ [grammar]) after

/-- Grammars can be looked up in two stretches. -/
lemma Looks.trans {before middle after loads more : List String}
    (h : Looks supply before loads middle) (hmore : Looks supply middle more after) :
    Looks supply before (loads ++ more) after := by
  induction hmore with
  | nothing => simpa using h
  | recalled _ hmem ih => exact ih.recalled hmem
  | loaded _ hnew hload ih => simpa using ih.loaded hnew hload
  | missed _ hnew hload ih => simpa using ih.missed hnew hload

/-- What is remembered was remembered before, or has been loaded on the way. -/
lemma Looks.mem_or_loaded {before loads after : List String} (h : Looks supply before loads after)
    (hmem : grammar ∈ after) :
    grammar ∈ before ∨ grammar ∈ loads ∧ supply.isLoadable grammar = true := by
  induction h with
  | nothing => exact .inl hmem
  | recalled _ hfront ih =>
    rcases List.mem_cons.1 hmem with rfl | hrest
    · exact ih hfront
    · exact ih (List.mem_of_mem_erase hrest)
  | loaded _ _ hload ih =>
    rcases List.mem_cons.1 (List.mem_of_mem_take hmem) with rfl | hrest
    · exact .inr ⟨by simp, hload⟩
    · exact (ih hrest).imp_right fun hloaded => ⟨List.mem_append_left _ hloaded.1, hloaded.2⟩
  | missed _ _ _ ih =>
    exact (ih hmem).imp_right fun hloaded => ⟨List.mem_append_left _ hloaded.1, hloaded.2⟩

/-- Looking one grammar up. -/
lemma looks_fetch (supply : GrammarSupply) (loader : Loader) (grammar : String) :
    Looks supply loader.grammars (loader.fetch supply grammar).loads
      (loader.fetch supply grammar).loader.grammars := by
  by_cases hmem : grammar ∈ loader.grammars
  · rw [fetch_of_mem supply hmem]
    exact Looks.nothing.recalled hmem
  · cases hload : supply.isLoadable grammar with
    | true =>
      rw [fetch_of_isLoadable hmem hload]
      exact Looks.nothing.loaded hmem hload
    | false =>
      rw [fetch_of_missing hmem hload]
      exact Looks.nothing.missed hmem hload

/-! ### Parsing a source -/

/-- With a parser that is kept, nothing is asked for and nothing changes. -/
lemma parse_of_kept (supply : GrammarSupply) (h : grammar ∈ loader.parsers) (reply : ParserReply) :
    loader.parse supply grammar reply =
      ⟨loader, [], (judge grammar reply).events, (judge grammar reply).value⟩ := by
  simp [parse, obtainParser, h]

/-- Without a parser, a grammar that is not there leaves no trace. -/
lemma parse_of_missing (hparser : grammar ∉ loader.parsers)
    (hthere : ¬ loader.IsThere supply grammar) (reply : ParserReply) :
    loader.parse supply grammar reply =
      ⟨loader, [grammar], [], .failed (.grammarMissing grammar)⟩ := by
  obtain ⟨hmem, hload⟩ := not_or.1 hthere
  simp [parse, obtainParser, hparser, fetch_of_missing hmem (Bool.not_eq_true _ ▸ hload),
    NoParser.outcome]

/-- Without a parser that can be built, the grammar is looked up all the same. -/
lemma parse_of_obstacle {breakdown : Breakdown} (hparser : grammar ∉ loader.parsers)
    (hthere : loader.IsThere supply grammar) (hbuild : supply.obstacle? grammar = some breakdown)
    (reply : ParserReply) :
    loader.parse supply grammar reply =
      ⟨(loader.fetch supply grammar).loader, (loader.fetch supply grammar).loads, [],
        .ofBreakdown grammar breakdown⟩ := by
  simp [parse, obtainParser, hparser, (answer_fetch_iff supply loader grammar).2 hthere, hbuild,
    NoParser.outcome]

/-- A parser that is built is kept. -/
lemma parse_of_buildable (hparser : grammar ∉ loader.parsers)
    (hthere : loader.IsThere supply grammar) (hbuild : supply.obstacle? grammar = none)
    (reply : ParserReply) :
    loader.parse supply grammar reply =
      ⟨{ (loader.fetch supply grammar).loader with parsers := grammar :: loader.parsers },
        (loader.fetch supply grammar).loads, (judge grammar reply).events,
        (judge grammar reply).value⟩ := by
  simp [parse, obtainParser, hparser, (answer_fetch_iff supply loader grammar).2 hthere, hbuild]

/-- There is no fifth way to parse a source. -/
lemma parse_cases (supply : GrammarSupply) (loader : Loader) (grammar : String) :
    grammar ∈ loader.parsers ∨
      grammar ∉ loader.parsers ∧ ¬ loader.IsThere supply grammar ∨
      grammar ∉ loader.parsers ∧ loader.IsThere supply grammar ∧
        (∃ breakdown, supply.obstacle? grammar = some breakdown) ∨
      grammar ∉ loader.parsers ∧ loader.IsThere supply grammar ∧
        supply.obstacle? grammar = none := by
  by_cases hkept : grammar ∈ loader.parsers
  · exact .inl hkept
  · by_cases hthere : loader.IsThere supply grammar
    · cases hbuild : supply.obstacle? grammar with
      | some breakdown => exact .inr (.inr (.inl ⟨hkept, hthere, breakdown, rfl⟩))
      | none => exact .inr (.inr (.inr ⟨hkept, hthere, rfl⟩))
    · exact .inr (.inl ⟨hkept, hthere⟩)

/-- Parsing a source looks one grammar up at most. -/
lemma looks_parse (supply : GrammarSupply) (loader : Loader) (grammar : String)
    (reply : ParserReply) :
    Looks supply loader.grammars (loader.parse supply grammar reply).loads
      (loader.parse supply grammar reply).loader.grammars := by
  rcases parse_cases supply loader grammar with
    hkept | ⟨hparser, hthere⟩ | ⟨hparser, hthere, breakdown, hbuild⟩ | ⟨hparser, hthere, hbuild⟩
  · rw [parse_of_kept supply hkept]
    exact .nothing
  · obtain ⟨hmem, hload⟩ := not_or.1 hthere
    rw [parse_of_missing hparser hthere]
    exact Looks.nothing.missed hmem (Bool.not_eq_true _ ▸ hload)
  · rw [parse_of_obstacle hparser hthere hbuild]
    exact looks_fetch supply loader grammar
  · rw [parse_of_buildable hparser hthere hbuild]
    exact looks_fetch supply loader grammar

/-- A source adds a parser for its grammar at most, and only if the grammar is there. -/
lemma parsers_parse (supply : GrammarSupply) (loader : Loader) (grammar : String)
    (reply : ParserReply) :
    (loader.parse supply grammar reply).loader.parsers = loader.parsers ∨
      (loader.parse supply grammar reply).loader.parsers = grammar :: loader.parsers ∧
        (grammar ∈ loader.grammars ∨ grammar ∈ (loader.parse supply grammar reply).loads ∧
          supply.isLoadable grammar = true) := by
  rcases parse_cases supply loader grammar with
    hkept | ⟨hparser, hthere⟩ | ⟨hparser, hthere, breakdown, hbuild⟩ | ⟨hparser, hthere, hbuild⟩
  · exact .inl (by rw [parse_of_kept supply hkept])
  · exact .inl (by rw [parse_of_missing hparser hthere])
  · exact .inl (by rw [parse_of_obstacle hparser hthere hbuild, parsers_fetch])
  · rw [parse_of_buildable hparser hthere hbuild]
    exact .inr ⟨rfl, hthere.mem_or_loaded⟩

/-- Parsing a source keeps the answer of the preloading. -/
@[simp] lemma preloaded_parse (supply : GrammarSupply) (loader : Loader) (grammar : String)
    (reply : ParserReply) :
    (loader.parse supply grammar reply).loader.preloaded = loader.preloaded := by
  rcases parse_cases supply loader grammar with
    hkept | ⟨hparser, hthere⟩ | ⟨hparser, hthere, breakdown, hbuild⟩ | ⟨hparser, hthere, hbuild⟩
  · rw [parse_of_kept supply hkept]
  · rw [parse_of_missing hparser hthere]
  · rw [parse_of_obstacle hparser hthere hbuild, preloaded_fetch]
  · rw [parse_of_buildable hparser hthere hbuild, preloaded_fetch]

/-- No reply of a parser is taken for a missing grammar. -/
lemma judge_ne_grammarMissing (grammar missing : String) (reply : ParserReply) :
    (judge grammar reply).value ≠ .failed (.grammarMissing missing) := by
  cases reply with
  | tree root recovered => cases recovered <;> simp [judge, Logged.value_bind, Logged.value_pure]
  | nothing => simp [judge, Logged.value_pure]
  | brokeDown breakdown => exact ParseOutcome.ofBreakdown_ne_grammarMissing missing

/-- A grammar that is remembered is neither asked for nor reported as missing. -/
lemma parse_of_mem (supply : GrammarSupply) (h : grammar ∈ loader.grammars) (reply : ParserReply) :
    (loader.parse supply grammar reply).loads = [] ∧
      ∀ missing, (loader.parse supply grammar reply).answer ≠ .failed (.grammarMissing missing) := by
  have hloads : (loader.fetch supply grammar).loads = [] := by rw [fetch_of_mem supply h]
  rcases parse_cases supply loader grammar with
    hkept | ⟨hparser, hthere⟩ | ⟨hparser, hthere, breakdown, hbuild⟩ | ⟨hparser, hthere, hbuild⟩
  · rw [parse_of_kept supply hkept]
    exact ⟨rfl, fun missing => judge_ne_grammarMissing grammar missing reply⟩
  · exact absurd (.inl h) hthere
  · rw [parse_of_obstacle hparser hthere hbuild]
    exact ⟨hloads, fun missing => ParseOutcome.ofBreakdown_ne_grammarMissing missing⟩
  · rw [parse_of_buildable hparser hthere hbuild]
    exact ⟨hloads, fun missing => judge_ne_grammarMissing grammar missing reply⟩

/-! ### Loading grammars in advance -/

/-- The loader after several grammars were looked up, from the first one on. -/
lemma loader_fetchAll_cons (supply : GrammarSupply) (language : Language) (rest : List Language)
    (loader : Loader) :
    (fetchAll supply (language :: rest) loader).loader =
      (fetchAll supply rest (loader.fetch supply language.grammar).loader).loader := by
  simp only [fetchAll]
  split <;> rfl

/-- What was asked for when several grammars were looked up, from the first one on. -/
lemma loads_fetchAll_cons (supply : GrammarSupply) (language : Language) (rest : List Language)
    (loader : Loader) :
    (fetchAll supply (language :: rest) loader).loads =
      (loader.fetch supply language.grammar).loads ++
        (fetchAll supply rest (loader.fetch supply language.grammar).loader).loads := by
  simp only [fetchAll]
  split <;> rfl

/-- A language in front is named in front, if its grammar is there. -/
lemma answer_fetchAll_cons (supply : GrammarSupply) (language : Language) (rest : List Language)
    (loader : Loader) :
    (fetchAll supply (language :: rest) loader).answer =
      (if (loader.fetch supply language.grammar).answer then [language.id] else []) ++
        (fetchAll supply rest (loader.fetch supply language.grammar).loader).answer := by
  simp only [fetchAll]
  split <;> rfl

/-- Looking several grammars up. -/
lemma looks_fetchAll (supply : GrammarSupply) (languages : List Language) (loader : Loader) :
    Looks supply loader.grammars (fetchAll supply languages loader).loads
      (fetchAll supply languages loader).loader.grammars := by
  induction languages generalizing loader with
  | nil => exact .nothing
  | cons language rest ih =>
    rw [loader_fetchAll_cons, loads_fetchAll_cons]
    exact (looks_fetch supply loader language.grammar).trans (ih _)

/-- Looking several grammars up keeps the parsers. -/
@[simp] lemma parsers_fetchAll (supply : GrammarSupply) (languages : List Language)
    (loader : Loader) : (fetchAll supply languages loader).loader.parsers = loader.parsers := by
  induction languages generalizing loader with
  | nil => rfl
  | cons language rest ih => rw [loader_fetchAll_cons, ih, parsers_fetch]

/-- A language is named only if its grammar was remembered or has been loaded. -/
lemma exists_of_mem_answer_fetchAll {id : String} {languages : List Language}
    (h : id ∈ (fetchAll supply languages loader).answer) :
    ∃ language ∈ languages, language.id = id ∧
      (language.grammar ∈ loader.grammars ∨
        language.grammar ∈ (fetchAll supply languages loader).loads ∧
          supply.isLoadable language.grammar = true) := by
  induction languages generalizing loader with
  | nil => simp [fetchAll] at h
  | cons language rest ih =>
    rw [answer_fetchAll_cons] at h
    rw [loads_fetchAll_cons]
    rcases List.mem_append.1 h with hfront | hrest
    · split at hfront
      · rename_i hanswer
        have hthere := (answer_fetch_iff supply loader language.grammar).1 hanswer
        refine ⟨language, List.mem_cons_self, (List.mem_singleton.1 hfront).symm, ?_⟩
        exact hthere.mem_or_loaded.imp_right fun hloaded =>
          ⟨List.mem_append_left _ hloaded.1, hloaded.2⟩
      · simp at hfront
    · obtain ⟨other, hother, hid, hthere⟩ := ih hrest
      refine ⟨other, List.mem_cons_of_mem _ hother, hid, ?_⟩
      rcases hthere with hmem | ⟨hasked, hload⟩
      · -- what the rest finds remembered may have been loaded for the language in front
        exact ((looks_fetch supply loader language.grammar).mem_or_loaded hmem).imp_right
          fun hloaded => ⟨List.mem_append_left _ hloaded.1, hloaded.2⟩
      · exact .inr ⟨List.mem_append_right _ hasked, hload⟩

/-- As long as only grammars are remembered that can be loaded, the languages named are those whose
grammars can be loaded. -/
lemma answer_fetchAll_eq {languages : List Language}
    (h : ∀ grammar ∈ loader.grammars, supply.isLoadable grammar = true) :
    (fetchAll supply languages loader).answer =
      (languages.filter fun language => supply.isLoadable language.grammar).map (·.id) := by
  induction languages generalizing loader with
  | nil => rfl
  | cons language rest ih =>
    have hfetched : ∀ grammar ∈ (loader.fetch supply language.grammar).loader.grammars,
        supply.isLoadable grammar = true := by
      intro grammar hmem
      rcases (looks_fetch supply loader language.grammar).mem_or_loaded hmem with hbefore | hloaded
      · exact h grammar hbefore
      · exact hloaded.2
    have hanswer : (loader.fetch supply language.grammar).answer =
        supply.isLoadable language.grammar := by
      rw [Bool.eq_iff_iff, answer_fetch_iff, IsThere, or_iff_right_of_imp (h language.grammar)]
    rw [answer_fetchAll_cons, hanswer, ih hfetched, List.filter_cons]
    split <;> rfl

/-- A loader that has preloaded repeats its answer. -/
lemma preload_of_some (supply : GrammarSupply) {loaded : List String}
    (h : loader.preloaded = some loaded) (languages : List Language) :
    loader.preload supply languages = ⟨loader, [], [], loaded⟩ := by
  rw [preload, h]

/-- A loader that has not preloaded looks the grammars up and keeps its answer. -/
lemma preload_of_none (supply : GrammarSupply) (h : loader.preloaded = none)
    (languages : List Language) :
    loader.preload supply languages =
      ⟨{ (fetchAll supply languages loader).loader with
          preloaded := some (fetchAll supply languages loader).answer },
        (fetchAll supply languages loader).loads,
        (fetchAll supply languages loader).events ++
          [.grammarsLoaded (fetchAll supply languages loader).answer],
        (fetchAll supply languages loader).answer⟩ := by
  rw [preload, h]

/-- Preloading looks grammars up, or none. -/
lemma looks_preload (supply : GrammarSupply) (languages : List Language) (loader : Loader) :
    Looks supply loader.grammars (loader.preload supply languages).loads
      (loader.preload supply languages).loader.grammars := by
  cases h : loader.preloaded with
  | some loaded =>
    rw [preload_of_some supply h]
    exact .nothing
  | none =>
    rw [preload_of_none supply h]
    exact looks_fetchAll supply languages loader

/-- Preloading keeps the parsers. -/
@[simp] lemma parsers_preload (supply : GrammarSupply) (languages : List Language)
    (loader : Loader) : (loader.preload supply languages).loader.parsers = loader.parsers := by
  cases h : loader.preloaded with
  | some loaded => rw [preload_of_some supply h]
  | none => rw [preload_of_none supply h, parsers_fetchAll]

/-- The answer is kept. -/
lemma preloaded_preload (supply : GrammarSupply) (languages : List Language) (loader : Loader) :
    (loader.preload supply languages).loader.preloaded =
      some (loader.preload supply languages).answer := by
  cases h : loader.preloaded with
  | some loaded => rw [preload_of_some supply h, h]
  | none => rw [preload_of_none supply h]

end Loader

/-! ### Requests -/

namespace Session

variable {request : LoaderRequest}

/-- **All that a request does to the grammars remembered**, unless it is a reset, is to look some
up. -/
lemma looks_perform (session : Session) (h : request ≠ .reset) :
    Loader.Looks session.supply session.loader.grammars (session.perform request).loads
      (session.perform request).session.loader.grammars := by
  cases request with
  | supply supply => exact .nothing
  | reset => exact absurd rfl h
  | preload languages => exact Loader.looks_preload session.supply languages session.loader
  | parse grammar reply => exact Loader.looks_parse session.supply session.loader grammar reply

/-- **Parsers are kept until a reset**, and one is added only for a grammar that was remembered or
has been loaded. -/
lemma parsers_perform (session : Session) (h : request ≠ .reset) :
    (session.perform request).session.loader.parsers = session.loader.parsers ∨
      ∃ grammar, (session.perform request).session.loader.parsers =
          grammar :: session.loader.parsers ∧
        (grammar ∈ session.loader.grammars ∨ grammar ∈ (session.perform request).loads ∧
          session.supply.isLoadable grammar = true) := by
  cases request with
  | supply supply => exact .inl rfl
  | reset => exact absurd rfl h
  | preload languages =>
    exact .inl (Loader.parsers_preload session.supply languages session.loader)
  | parse grammar reply =>
    exact (Loader.parsers_parse session.supply session.loader grammar reply).imp_right
      fun hadded => ⟨grammar, hadded⟩

/-- Without requests a session stays as it is. -/
lemma after_nil (session : Session) : session.after [] = session := rfl

/-- A history can be performed in two stretches. -/
lemma after_append (session : Session) (history later : List LoaderRequest) :
    session.after (history ++ later) = (session.after history).after later := by
  rw [after, List.foldl_append]
  rfl

/-- The last request of a history is performed after the others. -/
lemma after_concat (session : Session) (history : List LoaderRequest) (request : LoaderRequest) :
    session.after (history ++ [request]) = ((session.after history).perform request).session :=
  session.after_append history [request]

end Session

end SourceLint
