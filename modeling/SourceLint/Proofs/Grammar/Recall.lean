import Mathlib.Data.List.Induction
import SourceLint.Proofs.Grammar.Memory

set_option autoImplicit false

/-!
# What a loader remembers of its history

A loader remembers successes: a grammar that it has loaded, and a parser that it has built. Both are
forgotten on a reset, and a grammar also when too many others have been loaded. Failures leave no
trace. So a source is parsed as by a loader that has forgotten everything, unless its grammar has
been loaded, or a parser has been built for it, since the last reset; and once a parser has been
built, neither the supply of grammars nor other requests have any influence.

## Main definitions

* `Session.SinceReset` — what has happened since the last reset of a history.
* `Session.Loads`, `Session.Builds` — a request has a grammar loaded, or a parser built.
* `Session.afresh` — a session that has forgotten everything.

## Main results

* `Session.loads_of_remembers` — nothing is remembered that has not been loaded.
* `Session.mem_parsers_iff` — the parsers kept are those built since the last reset.
* `Session.parse_heeds_successes_only` — parsing a source after any history.
-/

namespace SourceLint

namespace Session

variable {start session : Session} {history : List LoaderRequest} {request : LoaderRequest}
  {effect : Session → LoaderRequest → Prop} {grammar : String} {reply : ParserReply}

/-- A session before its first request. -/
def atStart (supply : GrammarSupply) : Session where
  supply := supply

/-- A session that has forgotten everything. -/
def afresh (session : Session) : Session :=
  atStart session.supply

/-- The answer to a request, and the events that were reported on the way to it. -/
def Performed.outcome (performed : Performed) : LoaderAnswer × List Event :=
  (performed.answer, performed.events)

/-- A request has a grammar loaded: the grammar is asked for, and there is such a grammar. -/
def Loads (grammar : String) (session : Session) (request : LoaderRequest) : Prop :=
  grammar ∈ (session.perform request).loads ∧ session.supply.isLoadable grammar = true

/-- A request has a parser built: there was none for the grammar, and now there is. -/
def Builds (grammar : String) (session : Session) (request : LoaderRequest) : Prop :=
  grammar ∉ session.loader.parsers ∧ grammar ∈ (session.perform request).session.loader.parsers

/-- Since the last reset of a history there was a request with an effect. -/
def SinceReset (start : Session) (history : List LoaderRequest)
    (effect : Session → LoaderRequest → Prop) : Prop :=
  ∃ before request later, history = before ++ request :: later ∧ .reset ∉ later ∧
    effect (start.after before) request

/-! ### What happened since the last reset -/

/-- A reset leaves a session as before its first request. -/
lemma session_perform_reset (session : Session) :
    (session.perform .reset).session = session.afresh := rfl

/-- No parser is kept before the first request. -/
lemma not_mem_parsers_afresh : grammar ∉ session.afresh.loader.parsers := by
  simp [afresh, atStart, Loader.fresh]

/-- Nothing has happened before the first request. -/
lemma not_sinceReset_nil : ¬ SinceReset start [] effect := by
  rintro ⟨before, request, later, hhistory, -⟩
  simp at hhistory

/-- What happened since the last reset happened with the last request or, unless this is a reset,
before. -/
lemma sinceReset_concat_iff :
    SinceReset start (history ++ [request]) effect ↔
      effect (start.after history) request ∨
        request ≠ .reset ∧ SinceReset start history effect := by
  constructor
  · rintro ⟨before, other, later, hhistory, hreset, heffect⟩
    -- the request is the last one of the history, or stands before the last one
    rcases List.eq_nil_or_concat later with rfl | ⟨later, last, rfl⟩
    · obtain ⟨rfl, hlast⟩ := List.append_inj' hhistory rfl
      rw [List.singleton_inj.1 hlast]
      exact .inl heffect
    · rw [List.concat_eq_append] at hhistory hreset
      rw [← List.cons_append, ← List.append_assoc] at hhistory
      obtain ⟨rfl, hlast⟩ := List.append_inj' hhistory rfl
      obtain rfl := List.singleton_inj.1 hlast
      simp only [List.mem_append, List.mem_singleton, not_or] at hreset
      exact .inr ⟨Ne.symm hreset.2, before, other, later, rfl, hreset.1, heffect⟩
  · rintro (heffect | ⟨hlast, before, other, later, rfl, hreset, heffect⟩)
    · exact ⟨history, request, [], rfl, by simp, heffect⟩
    · refine ⟨before, other, later ++ [request], by simp, ?_, heffect⟩
      simpa [hreset] using hlast.symm

/-- A request other than a reset has the parser of a grammar kept if it is kept already, or is
built. -/
lemma mem_parsers_perform_iff (h : request ≠ .reset) :
    grammar ∈ (session.perform request).session.loader.parsers ↔
      grammar ∈ session.loader.parsers ∨ Builds grammar session request := by
  have hkept : grammar ∈ session.loader.parsers →
      grammar ∈ (session.perform request).session.loader.parsers := by
    intro hmem
    rcases parsers_perform session h with heq | ⟨other, heq, -⟩
    · rwa [heq]
    · rw [heq]
      exact List.mem_cons_of_mem _ hmem
  unfold Builds
  tauto

/-- **The parsers kept are those built since the last reset.** -/
lemma mem_parsers_iff (supply : GrammarSupply) (history : List LoaderRequest) (grammar : String) :
    grammar ∈ ((atStart supply).after history).loader.parsers ↔
      SinceReset (atStart supply) history (Builds grammar) := by
  induction history using List.reverseRecOn with
  | nil => simp [after_nil, atStart, Loader.fresh, not_sinceReset_nil]
  | append_singleton history request ih =>
    rw [after_concat, sinceReset_concat_iff, ← ih]
    by_cases hreset : request = .reset
    · subst hreset
      simp [Builds, session_perform_reset, not_mem_parsers_afresh]
    · rw [mem_parsers_perform_iff hreset, or_comm, and_iff_right hreset]

/-- A grammar is remembered, or a parser for it is kept. -/
def Remembers (session : Session) (grammar : String) : Prop :=
  grammar ∈ session.loader.grammars ∨ grammar ∈ session.loader.parsers

/-- What is remembered after a request was remembered before, or has been loaded. -/
lemma remembers_or_loads (h : request ≠ .reset)
    (hremembers : (session.perform request).session.Remembers grammar) :
    session.Remembers grammar ∨ Loads grammar session request := by
  rcases hremembers with hmem | hparser
  · exact ((looks_perform session h).mem_or_loaded hmem).imp_left .inl
  · rcases parsers_perform session h with heq | ⟨other, heq, hthere⟩
    · exact .inl (.inr (heq ▸ hparser))
    · rcases List.mem_cons.1 (heq ▸ hparser) with rfl | hkept
      · exact hthere.imp_left .inl
      · exact .inl (.inr hkept)

/-- **Nothing is remembered that has not been loaded** since the last reset. -/
lemma loads_of_remembers {supply : GrammarSupply}
    (h : ((atStart supply).after history).Remembers grammar) :
    SinceReset (atStart supply) history (Loads grammar) := by
  induction history using List.reverseRecOn with
  | nil => simp [Remembers, after_nil, atStart, Loader.fresh] at h
  | append_singleton history request ih =>
    rw [after_concat] at h
    rw [sinceReset_concat_iff]
    by_cases hreset : request = .reset
    · subst hreset
      simp [Remembers, session_perform_reset, afresh, atStart, Loader.fresh] at h
    · rcases remembers_or_loads hreset h with hbefore | hloads
      · exact .inr ⟨hreset, ih hbefore⟩
      · exact .inl hloads

/-! ### Parsing a source -/

/-- With a parser at hand a source is parsed by it. -/
lemma outcome_parse_of_kept (h : grammar ∈ session.loader.parsers) :
    (session.perform (.parse grammar reply)).outcome =
      (.parsed (Loader.judge grammar reply).value, (Loader.judge grammar reply).events) := by
  simp [Performed.outcome, perform, ofLoaderStep, Loader.parse_of_kept session.supply h]

/-- Without a parser at hand, a source whose grammar is not there fails for that reason. -/
lemma outcome_parse_of_missing (hparser : grammar ∉ session.loader.parsers)
    (hthere : ¬ session.loader.IsThere session.supply grammar) :
    (session.perform (.parse grammar reply)).outcome =
      (.parsed (.failed (.grammarMissing grammar)), []) := by
  simp [Performed.outcome, perform, ofLoaderStep, Loader.parse_of_missing hparser hthere]

/-- A parser that cannot be built fails the source as building it fails. -/
lemma outcome_parse_of_obstacle {breakdown : Breakdown}
    (hparser : grammar ∉ session.loader.parsers)
    (hthere : session.loader.IsThere session.supply grammar)
    (hbuild : session.supply.obstacle? grammar = some breakdown) :
    (session.perform (.parse grammar reply)).outcome =
      (.parsed (.ofBreakdown grammar breakdown), []) := by
  simp [Performed.outcome, perform, ofLoaderStep, Loader.parse_of_obstacle hparser hthere hbuild]

/-- With a grammar that is there and a parser that can be built, only the parser's reply counts. -/
lemma outcome_parse_of_buildable (hthere : session.loader.IsThere session.supply grammar)
    (hbuild : session.supply.obstacle? grammar = none) :
    (session.perform (.parse grammar reply)).outcome =
      (.parsed (Loader.judge grammar reply).value, (Loader.judge grammar reply).events) := by
  by_cases hparser : grammar ∈ session.loader.parsers
  · exact outcome_parse_of_kept hparser
  · simp [Performed.outcome, perform, ofLoaderStep,
      Loader.parse_of_buildable hparser hthere hbuild]

/-- After a reset a grammar is there only if it can be loaded. -/
lemma isThere_afresh_iff :
    session.afresh.loader.IsThere session.afresh.supply grammar ↔
      session.supply.isLoadable grammar = true := by
  simp [Loader.IsThere, afresh, atStart, Loader.fresh]

/-- A grammar that is reported as missing leaves no trace. -/
lemma session_parse_of_answer_missing {missing : String}
    (h : (session.perform (.parse grammar reply)).answer =
      .parsed (.failed (.grammarMissing missing))) :
    (session.perform (.parse grammar reply)).session = session := by
  simp only [perform, ofLoaderStep, LoaderAnswer.parsed.injEq] at h ⊢
  rcases Loader.parse_cases session.supply session.loader grammar with
    hkept | ⟨hparser, hthere⟩ | ⟨hparser, hthere, breakdown, hbuild⟩ | ⟨hparser, hthere, hbuild⟩
  · rw [Loader.parse_of_kept session.supply hkept]
  · rw [Loader.parse_of_missing hparser hthere]
  · rw [Loader.parse_of_obstacle hparser hthere hbuild] at h
    exact absurd h (ParseOutcome.ofBreakdown_ne_grammarMissing missing)
  · rw [Loader.parse_of_buildable hparser hthere hbuild] at h
    exact absurd h (Loader.judge_ne_grammarMissing grammar missing reply)

/-- The want of a parser decides the outcome, and leaves the parsers as they were. -/
lemma parsers_parse_of_noParser {cause : NoParser}
    (h : (session.loader.obtainParser session.supply grammar).answer = some cause) :
    (session.perform (.parse grammar reply)).answer = .parsed (cause.outcome grammar) ∧
      (session.perform (.parse grammar reply)).session.loader.parsers = session.loader.parsers := by
  have hanswer : (session.perform (.parse grammar reply)).answer =
      .parsed (cause.outcome grammar) := by
    simp [perform, ofLoaderStep, Loader.parse, h]
  refine ⟨hanswer, ?_⟩
  rcases Loader.parse_cases session.supply session.loader grammar with
    hkept | ⟨hparser, hthere⟩ | ⟨hparser, hthere, breakdown, hbuild⟩ | ⟨hparser, hthere, hbuild⟩
  · simp [perform, ofLoaderStep, Loader.parse_of_kept session.supply hkept]
  · simp [perform, ofLoaderStep, Loader.parse_of_missing hparser hthere]
  · simp [perform, ofLoaderStep, Loader.parse_of_obstacle hparser hthere hbuild]
  · simp [Loader.obtainParser, hparser, hbuild,
      (Loader.answer_fetch_iff session.supply session.loader grammar).2 hthere] at h

/-- **No failure is remembered, and no success is forgotten.** A source is parsed after any history
of requests, in comparison with a session that has forgotten everything.

* If its grammar can be loaded and a parser can be built now, the outcome is the same.
* If its grammar is missing now, or no parser can be built, the failure is the same, unless the
  missing grammar has been loaded since the last reset, or the parser has been built since then.
* As long as no parser can be built and none has been built, parsing fails.
* Once a parser has been built, nothing is asked for up to the next reset, and the outcome is what
  comes of the parser's reply to the source.
* A grammar reported as missing leaves the session as it was, and the want of a parser leaves the
  parsers as they were.

**Proof sketch.** The outcome depends on the past through two facts only: whether a parser is kept,
and whether the grammar is remembered (`Loader.parse_cases`). A parser is kept iff one was built
since the last reset (`mem_parsers_iff`), and nothing is remembered that was not loaded since then
(`loads_of_remembers`). -/
theorem parse_heeds_successes_only (supply : GrammarSupply) (history : List LoaderRequest)
    (grammar : String) (reply : ParserReply) (session : Session)
    (hsession : (atStart supply).after history = session) :
    (session.supply.isLoadable grammar = true → session.supply.obstacle? grammar = none →
        (session.perform (.parse grammar reply)).outcome =
          (session.afresh.perform (.parse grammar reply)).outcome) ∧
      (session.supply.isLoadable grammar = false ∨
          (session.supply.obstacle? grammar).isSome = true →
        (∃ failed : ParseOutcome, failed.IsFailure ∧
          (session.perform (.parse grammar reply)).outcome = (.parsed failed, []) ∧
            (session.afresh.perform (.parse grammar reply)).outcome = (.parsed failed, [])) ∨
          session.supply.isLoadable grammar = false ∧
            SinceReset (atStart supply) history (Loads grammar) ∨
          (session.supply.obstacle? grammar).isSome = true ∧
            SinceReset (atStart supply) history (Builds grammar)) ∧
      (∀ breakdown, session.supply.obstacle? grammar = some breakdown →
        ¬ SinceReset (atStart supply) history (Builds grammar) →
          ∃ cause ∈ [NoParser.grammarMissing, .unbuildable breakdown],
            (session.perform (.parse grammar reply)).outcome =
              (.parsed (cause.outcome grammar), [])) ∧
      (SinceReset (atStart supply) history (Builds grammar) →
        (session.perform (.parse grammar reply)).loads = [] ∧
          (session.perform (.parse grammar reply)).outcome =
            (.parsed (Loader.judge grammar reply).value, (Loader.judge grammar reply).events)) ∧
      ((session.perform (.parse grammar reply)).answer =
          .parsed (.failed (.grammarMissing grammar)) →
        (session.perform (.parse grammar reply)).session = session) ∧
      (∀ cause, (session.loader.obtainParser session.supply grammar).answer = some cause →
        (session.perform (.parse grammar reply)).answer = .parsed (cause.outcome grammar) ∧
          (session.perform (.parse grammar reply)).session.loader.parsers =
            session.loader.parsers) := by
  have hkept : grammar ∈ session.loader.parsers ↔
      SinceReset (atStart supply) history (Builds grammar) := by
    rw [← hsession, mem_parsers_iff]
  have hloads : session.Remembers grammar →
      SinceReset (atStart supply) history (Loads grammar) := by
    rw [← hsession]
    exact loads_of_remembers
  refine ⟨?_, ?_, ?_, ?_, session_parse_of_answer_missing, fun _ => parsers_parse_of_noParser⟩
  · intro hload hbuild
    rw [outcome_parse_of_buildable (.inr hload) hbuild,
      outcome_parse_of_buildable (isThere_afresh_iff.2 hload) hbuild]
  · intro hbad
    by_cases hparser : grammar ∈ session.loader.parsers
    · -- a parser is kept: the grammar has been loaded and the parser built
      exact .inr (hbad.imp (⟨·, hloads (.inr hparser)⟩) (⟨·, hkept.1 hparser⟩))
    · cases hload : session.supply.isLoadable grammar with
      | false =>
        by_cases hmem : grammar ∈ session.loader.grammars
        · exact .inr (.inl ⟨rfl, hloads (.inl hmem)⟩)
        · refine .inl ⟨_, NoParser.isFailure_outcome grammar .grammarMissing, ?_, ?_⟩
          · exact outcome_parse_of_missing hparser (not_or.2 ⟨hmem, by simp [hload]⟩)
          · exact outcome_parse_of_missing not_mem_parsers_afresh
              (by simp [isThere_afresh_iff, hload])
      | true =>
        -- the grammar can be loaded, so it is there in both sessions, remembered or not
        obtain ⟨breakdown, hbuild⟩ :=
          Option.isSome_iff_exists.1 (hbad.resolve_left (by simp [hload]))
        refine .inl ⟨_, NoParser.isFailure_outcome grammar (.unbuildable breakdown), ?_, ?_⟩
        · exact outcome_parse_of_obstacle hparser (.inr hload) hbuild
        · exact outcome_parse_of_obstacle not_mem_parsers_afresh (isThere_afresh_iff.2 hload) hbuild
  · intro breakdown hbuild hnever
    have hparser := mt hkept.1 hnever
    by_cases hthere : session.loader.IsThere session.supply grammar
    · exact ⟨.unbuildable breakdown, by simp, outcome_parse_of_obstacle hparser hthere hbuild⟩
    · exact ⟨.grammarMissing, by simp, outcome_parse_of_missing hparser hthere⟩
  · intro hbuilt
    have hparser := hkept.2 hbuilt
    refine ⟨?_, outcome_parse_of_kept hparser⟩
    simp [perform, ofLoaderStep, Loader.parse_of_kept session.supply hparser]

/-- A parser is built for one grammar, and then this and another grammar go missing. -/
def lossHistory : List LoaderRequest :=
  [.parse "go" .nothing, .supply { missing := ["go", "ruby"] }]

/-- A source with which the parser cannot cope. -/
def cutOff : ParserReply :=
  .brokeDown ⟨.ofName "ValueError", "cut off"⟩

/-- A parser that was built serves on after its grammar was lost; here it breaks down. -/
theorem parse_heeds_successes_only_loss :
    SinceReset (atStart {}) lossHistory (Builds "go") ∧
      ((atStart {}).after lossHistory).supply.isLoadable "go" = false ∧
      (((atStart {}).after lossHistory).perform (.parse "go" cutOff)).loads = [] ∧
      (((atStart {}).after lossHistory).perform (.parse "go" cutOff)).outcome =
        (.parsed (.failed (.refused "go" "cut off")), []) := by
  have hbuilt : SinceReset (atStart {}) lossHistory (Builds "go") :=
    ⟨[], .parse "go" .nothing, [.supply { missing := ["go", "ruby"] }], rfl, by simp, by decide,
      by decide⟩
  obtain ⟨-, -, -, hkept, -⟩ :=
    parse_heeds_successes_only {} lossHistory "go" cutOff _ rfl
  exact ⟨hbuilt, by decide, hkept hbuilt⟩

end Session

end SourceLint
