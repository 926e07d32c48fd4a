import Mathlib.Data.Finset.Card
import SourceLint.Language.Catalogue
import SourceLint.Proofs.Grammar.Recall

set_option autoImplicit false

/-!
# Loading grammars once

A loader that has room for all the grammars of a history forgets none of them before the next reset:
it then remembers exactly those that have been loaded, and asks for none of them again.

Grammars are loaded in advance once. The first such request is answered for the languages that it
names, and every later one is answered like the first, whatever it names and whatever has become of
the grammars.

## Main definitions

* `Session.loadedBy` — the grammars that a history has loaded.
* `GrammarSupply.available` — the languages whose grammars can be loaded.
* `Session.firstAsked` — the languages that were first to be loaded in advance.

## Main results

* `Loader.Looks.perm` — with enough room nothing is forgotten.
* `Session.perm_after` — the grammars remembered after a history.
* `Session.grammars_loaded_once` — grammars are loaded once.
* `Session.preload_answers_first` — the answer to a request to load grammars in advance.
-/

namespace SourceLint

/-! ### Nothing is forgotten -/

/-- A part of a list has no more distinct members than the list. -/
lemma card_toFinset_le_append (names more : List String) :
    names.toFinset.card ≤ (names ++ more).toFinset.card := by
  rw [List.toFinset_append]
  exact Finset.card_le_card Finset.subset_union_left

/-- **With enough room nothing is forgotten**: if the grammars remembered were those loaded in the
past, they still are, and no grammar is loaded twice.

**Proof sketch.** A grammar that is recalled moves to the front, which is a permutation. A grammar
that is loaded is new, so all the grammars loaded are distinct, and as many as are remembered. By
assumption there is room for them. -/
lemma Loader.Looks.perm {supply : GrammarSupply} {before loads after past : List String}
    (h : Looks supply before loads after) (hpast : before.Perm past) (hnodup : past.Nodup)
    (hfew : (past ++ loads.filter supply.isLoadable).toFinset.card ≤ capacity) :
    after.Perm (past ++ loads.filter supply.isLoadable) ∧
      (past ++ loads.filter supply.isLoadable).Nodup := by
  induction h with
  | nothing => simpa using ⟨hpast, hnodup⟩
  | recalled _ hmem ih =>
    obtain ⟨hperm, hdistinct⟩ := ih hfew
    exact ⟨(List.perm_cons_erase hmem).symm.trans hperm, hdistinct⟩
  | @loaded loads after grammar _ hnew hload ih =>
    have hfilter : past ++ (loads ++ [grammar]).filter supply.isLoadable =
        (past ++ loads.filter supply.isLoadable) ++ [grammar] := by
      simp [hload]
    rw [hfilter] at hfew ⊢
    -- before this grammar there was room as well
    obtain ⟨hperm, hdistinct⟩ := ih ((card_toFinset_le_append _ [grammar]).trans hfew)
    have hdistinct' : ((past ++ loads.filter supply.isLoadable) ++ [grammar]).Nodup := by
      refine hdistinct.append (List.nodup_singleton grammar) ?_
      simpa [hperm.mem_iff] using hnew
    -- distinct grammars are counted by the length, so that cutting off forgets none
    rw [List.toFinset_card_of_nodup hdistinct'] at hfew
    have hroom : (grammar :: after).length ≤ capacity := by
      rwa [List.length_append, ← hperm.length_eq] at hfew
    rw [List.take_of_length_le hroom]
    exact ⟨(hperm.cons grammar).trans (List.perm_append_singleton _ _).symm, hdistinct'⟩
  | missed _ _ hload ih => simpa [hload] using ih (by simpa [hload] using hfew)

namespace Session

variable {session : Session} {history : List LoaderRequest} {request : LoaderRequest}

/-- The grammars that a history has loaded, in order: those that were asked for when there was such
a grammar. -/
def loadedBy (session : Session) : List LoaderRequest → List String
  | [] => []
  | request :: rest =>
    (session.perform request).loads.filter session.supply.isLoadable ++
      loadedBy (session.perform request).session rest

/-- After a history for which there was enough room, the grammars remembered are those that have
been loaded, each of them once. -/
lemma perm_after {past : List String} (hpast : session.loader.grammars.Perm past)
    (hnodup : past.Nodup) (hreset : .reset ∉ history)
    (hfew : (past ++ session.loadedBy history).toFinset.card ≤ Loader.capacity) :
    (session.after history).loader.grammars.Perm (past ++ session.loadedBy history) ∧
      (past ++ session.loadedBy history).Nodup := by
  induction history generalizing session past with
  | nil => simpa [loadedBy, after_nil] using ⟨hpast, hnodup⟩
  | cons request rest ih =>
    simp only [List.mem_cons, not_or] at hreset
    rw [loadedBy, ← List.append_assoc] at hfew ⊢
    have hstep := (looks_perform session (Ne.symm hreset.1)).perm hpast hnodup
      ((card_toFinset_le_append _ _).trans hfew)
    exact ih hstep.1 hstep.2 hreset.2 hfew

/-- **A loader with enough room remembers what it has loaded**, and loads nothing twice. -/
lemma perm_loadedBy (supply : GrammarSupply) (hreset : .reset ∉ history)
    (hfew : ((atStart supply).loadedBy history).toFinset.card ≤ Loader.capacity) :
    ((atStart supply).after history).loader.grammars.Perm ((atStart supply).loadedBy history) ∧
      ((atStart supply).loadedBy history).Nodup :=
  @perm_after (atStart supply) history [] (List.Perm.refl []) List.nodup_nil hreset hfew

/-- What a history in two stretches loads. -/
lemma loadedBy_append (session : Session) (history later : List LoaderRequest) :
    session.loadedBy (history ++ later) =
      session.loadedBy history ++ (session.after history).loadedBy later := by
  induction history generalizing session with
  | nil => rfl
  | cons request rest ih => rw [List.cons_append, loadedBy, loadedBy, ih, List.append_assoc]; rfl

/-! ### Loading grammars in advance -/

/-- Once grammars have been loaded in advance, such requests ask for nothing. -/
lemma perform_preload_of_some {loaded : List String}
    (h : session.loader.preloaded = some loaded) (languages : List Language) :
    (session.perform (.preload languages)).loads = [] ∧
      (session.perform (.preload languages)).answer = .loaded loaded := by
  simp [perform, ofLoaderStep, Loader.preload_of_some session.supply h]

/-- The answer is kept until a reset. -/
lemma preloaded_after {loaded : List String} (h : session.loader.preloaded = some loaded)
    (hreset : .reset ∉ history) : (session.after history).loader.preloaded = some loaded := by
  induction history generalizing session with
  | nil => exact h
  | cons request rest ih =>
    simp only [List.mem_cons, not_or] at hreset
    refine ih ?_ hreset.2
    cases request with
    | supply supply => exact h
    | reset => exact absurd rfl hreset.1
    | preload languages => simp [perform, ofLoaderStep, Loader.preload_of_some session.supply h, h]
    | parse grammar reply => simp [perform, ofLoaderStep, h]

/-- Nothing has been loaded in advance before the first request to do so. -/
lemma preloaded_after_eq_none (h : session.loader.preloaded = none)
    (hfirst : ∀ languages, .preload languages ∉ history) :
    (session.after history).loader.preloaded = none := by
  induction history generalizing session with
  | nil => exact h
  | cons request rest ih =>
    simp only [List.mem_cons, not_or] at hfirst
    refine ih ?_ fun languages => (hfirst languages).2
    cases request with
    | supply supply => exact h
    | reset => rfl
    | preload languages => exact absurd rfl (hfirst languages).1
    | parse grammar reply => simp [perform, ofLoaderStep, h]

end Session

/-- The languages of the catalogue have different names. -/
lemma Language.grammar_eq_of_id_eq {language other : Language} (hlanguage : language ∈ all)
    (hother : other ∈ all) (hid : other.id = language.id) : other.grammar = language.grammar := by
  have hall : ∀ language ∈ all, ∀ other ∈ all, other.id = language.id →
      other.grammar = language.grammar := by decide
  exact hall language hlanguage other hother hid

namespace Session

variable {supply : GrammarSupply} {history earlier later : List LoaderRequest}
  {languages : List Language}

/-- The grammar of a language that the first request names as loaded has been loaded by then. -/
lemma mem_loadedBy_of_first (hreset : .reset ∉ earlier)
    (hfirst : ∀ others, .preload others ∉ earlier)
    (hfew : ((atStart supply).loadedBy earlier).toFinset.card ≤ Loader.capacity)
    {loaded : List String} {id : String}
    (hanswer : (((atStart supply).after earlier).perform (.preload languages)).answer =
      .loaded loaded) (hid : id ∈ loaded) :
    ∃ language ∈ languages, language.id = id ∧
      language.grammar ∈ (atStart supply).loadedBy (earlier ++ [.preload languages]) := by
  have hnone : ((atStart supply).after earlier).loader.preloaded = none :=
    preloaded_after_eq_none rfl hfirst
  have hpreload := Loader.preload_of_none ((atStart supply).after earlier).supply hnone languages
  simp only [perform, ofLoaderStep, hpreload, LoaderAnswer.loaded.injEq] at hanswer
  obtain ⟨language, hlanguage, rfl, hthere⟩ :=
    Loader.exists_of_mem_answer_fetchAll (hanswer ▸ hid)
  refine ⟨language, hlanguage, rfl, ?_⟩
  rw [loadedBy_append, List.mem_append]
  rcases hthere with hmem | ⟨hasked, hload⟩
  · exact .inl ((perm_loadedBy supply hreset hfew).1.mem_iff.1 hmem)
  · right
    simp [loadedBy, perform, ofLoaderStep, hpreload, hasked, hload]

/-- **Grammars are loaded once.** A history without resets has loaded no more grammars than there is
room for. Then it has loaded each of them once. Moreover, after the first request to load grammars in
advance, every further one asks for nothing and is answered alike; and for every language of the
catalogue that the answer names, a source is parsed without asking for the grammar, which is not
reported as missing, whatever has become of it.

**Proof sketch.** With enough room the grammars remembered are those that have been loaded
(`perm_loadedBy`), so that a grammar once loaded is found among them. The first request names a
language only if its grammar has been loaded by then (`mem_loadedBy_of_first`). -/
theorem grammars_loaded_once (supply : GrammarSupply) (history : List LoaderRequest)
    (hreset : .reset ∉ history)
    (hfew : ((atStart supply).loadedBy history).toFinset.card ≤ Loader.capacity) :
    (∀ grammar, ((atStart supply).loadedBy history).count grammar ≤ 1) ∧
      ∀ earlier languages later, history = earlier ++ .preload languages :: later →
        (∀ others, .preload others ∉ earlier) →
        ∃ loaded,
          (((atStart supply).after earlier).perform (.preload languages)).answer = .loaded loaded ∧
            (∀ others,
              (((atStart supply).after history).perform (.preload others)).loads = [] ∧
                (((atStart supply).after history).perform (.preload others)).answer =
                  .loaded loaded) ∧
            ((∀ language ∈ languages, language ∈ Language.all) →
              ∀ language ∈ Language.all, language.id ∈ loaded → ∀ reply,
                (((atStart supply).after history).perform
                    (.parse language.grammar reply)).loads = [] ∧
                  ∀ missing,
                    (((atStart supply).after history).perform
                        (.parse language.grammar reply)).answer ≠
                      .parsed (.failed (.grammarMissing missing))) := by
  obtain ⟨hperm, hnodup⟩ := perm_loadedBy supply hreset hfew
  refine ⟨List.nodup_iff_count_le_one.1 hnodup, ?_⟩
  rintro earlier languages later rfl hfirst
  obtain ⟨loaded, hanswer⟩ : ∃ loaded,
      (((atStart supply).after earlier).perform (.preload languages)).answer = .loaded loaded :=
    ⟨_, rfl⟩
  have hkept : (((atStart supply).after earlier).perform
      (.preload languages)).session.loader.preloaded = some loaded := by
    rw [← LoaderAnswer.loaded.inj hanswer]
    exact Loader.preloaded_preload _ languages _
  simp only [List.mem_append, List.mem_cons, not_or] at hreset
  have hsplit : earlier ++ .preload languages :: later =
      (earlier ++ [.preload languages]) ++ later := by
    simp
  refine ⟨loaded, hanswer, ?_, ?_⟩
  · have hpreloaded : ((atStart supply).after
        (earlier ++ .preload languages :: later)).loader.preloaded = some loaded := by
      rw [hsplit, after_append, after_concat]
      exact preloaded_after hkept hreset.2.2
    exact perform_preload_of_some hpreloaded
  · intro hregistered language hlanguage hid reply
    have hfewEarlier : ((atStart supply).loadedBy earlier).toFinset.card ≤ Loader.capacity := by
      rw [loadedBy_append] at hfew
      exact (card_toFinset_le_append _ _).trans hfew
    obtain ⟨other, hother, hsame, hloaded⟩ :=
      mem_loadedBy_of_first hreset.1 hfirst hfewEarlier hanswer hid
    -- the name in the answer may come from any language that was asked for
    have hmem : language.grammar ∈ ((atStart supply).after
        (earlier ++ .preload languages :: later)).loader.grammars := by
      rw [hperm.mem_iff, hsplit, loadedBy_append, List.mem_append,
        ← Language.grammar_eq_of_id_eq hlanguage (hregistered other hother) hsame]
      exact .inl hloaded
    obtain ⟨hloads, hfound⟩ := Loader.parse_of_mem
      ((atStart supply).after (earlier ++ .preload languages :: later)).supply hmem reply
    exact ⟨hloads, fun missing h => hfound missing (LoaderAnswer.parsed.inj h)⟩

/-- All grammars are loaded in advance, and then one of them goes missing. -/
def catalogueHistory : List LoaderRequest :=
  [.preload Language.all, .supply { missing := ["python"] }]

/-- A session that has asked for every language parses them all without loading, though one of the
grammars can no longer be loaded. -/
theorem grammars_loaded_once_catalogue :
    .reset ∉ catalogueHistory ∧
      ((atStart {}).loadedBy catalogueHistory).toFinset.card ≤ Loader.capacity ∧
      ((atStart {}).after catalogueHistory).supply.isLoadable "python" = false ∧
      ∀ language ∈ Language.all, ∀ reply,
        (((atStart {}).after catalogueHistory).perform (.parse language.grammar reply)).loads = [] ∧
          (((atStart {}).after catalogueHistory).perform (.parse language.grammar reply)).answer ≠
            .parsed (.failed (.grammarMissing language.grammar)) := by
  have hreset : .reset ∉ catalogueHistory := by simp [catalogueHistory]
  have hfew : ((atStart {}).loadedBy catalogueHistory).toFinset.card ≤ Loader.capacity := by decide
  obtain ⟨loaded, hanswer, -, hparse⟩ := (grammars_loaded_once {} catalogueHistory hreset hfew).2
    [] Language.all _ rfl (by simp)
  have hloaded : LoaderAnswer.loaded Language.ids = .loaded loaded := hanswer
  obtain rfl := LoaderAnswer.loaded.inj hloaded
  refine ⟨hreset, hfew, by decide, fun language hlanguage reply => ?_⟩
  obtain ⟨hloads, hmissing⟩ := hparse (fun _ h => h) language hlanguage
    (List.mem_map_of_mem hlanguage) reply
  exact ⟨hloads, hmissing language.grammar⟩

end Session

/-! ### The answer to requests to load grammars in advance -/

/-- The names of those among languages whose grammars can be loaded, in order. -/
def GrammarSupply.available (supply : GrammarSupply) (languages : List Language) : List String :=
  (languages.filter fun language => supply.isLoadable language.grammar).map (·.id)

namespace LoaderRequest

/-- The languages whose grammars a request asks to load in advance. -/
def languages? : LoaderRequest → Option (List Language)
  | .preload languages => some languages
  | _ => none

/-- A request is addressed to the loader: it loads grammars in advance or parses a source. -/
def IsCall : LoaderRequest → Prop
  | .preload _ => True
  | .parse .. => True
  | _ => False

end LoaderRequest

namespace Session

/-- The languages that the first request of a history asks to load in advance, or the given ones if
there is no such request. -/
def firstAsked (history : List LoaderRequest) (languages : List Language) : List Language :=
  (history.findSome? LoaderRequest.languages?).getD languages

/-- The state of a session under a supply that does not change: only grammars are remembered that
can be loaded, and the answer kept is the one to the first request. -/
structure Settled (supply : GrammarSupply) (history : List LoaderRequest) (session : Session) :
    Prop where
  supply_eq : session.supply = supply
  loadable : ∀ grammar ∈ session.loader.grammars, supply.isLoadable grammar = true
  preloaded_eq : session.loader.preloaded =
    (history.findSome? LoaderRequest.languages?).map supply.available

/-- A session that starts is settled. -/
lemma settled_atStart (supply : GrammarSupply) : Settled supply [] (atStart supply) :=
  ⟨rfl, by simp [atStart, Loader.fresh], rfl⟩

namespace Settled

variable {supply : GrammarSupply} {history : List LoaderRequest} {session : Session}

/-- The answer is the one to the first request. -/
lemma answer_preload (h : Settled supply history session) (languages : List Language) :
    (session.loader.preload supply languages).answer =
      supply.available (firstAsked history languages) := by
  cases hfirst : history.findSome? LoaderRequest.languages? with
  | some others =>
    have hkept := h.preloaded_eq
    rw [hfirst] at hkept
    rw [Loader.preload_of_some supply hkept, firstAsked, hfirst]
    rfl
  | none =>
    have hnone := h.preloaded_eq
    rw [hfirst] at hnone
    rw [Loader.preload_of_none supply hnone, firstAsked, hfirst]
    exact Loader.answer_fetchAll_eq h.loadable

/-- A settled session is settled after one more call. -/
lemma perform (h : Settled supply history session) {request : LoaderRequest}
    (hcall : request.IsCall) :
    Settled supply (history ++ [request]) (session.perform request).session := by
  have hreset : request ≠ .reset := by
    rintro rfl
    exact hcall
  have hloadable : ∀ grammar ∈ (session.perform request).session.loader.grammars,
      supply.isLoadable grammar = true := by
    intro grammar hmem
    rcases (looks_perform session hreset).mem_or_loaded hmem with hbefore | hloaded
    · exact h.loadable grammar hbefore
    · exact h.supply_eq ▸ hloaded.2
  cases request with
  | supply supply => exact hcall.elim
  | reset => exact hcall.elim
  | preload languages =>
    refine ⟨h.supply_eq, hloadable, ?_⟩
    have hkept := Loader.preloaded_preload session.supply languages session.loader
    rw [h.supply_eq, h.answer_preload] at hkept
    simp only [Session.perform, ofLoaderStep, h.supply_eq]
    rw [hkept, firstAsked, List.findSome?_append]
    cases history.findSome? LoaderRequest.languages? <;> rfl
  | parse grammar reply =>
    refine ⟨h.supply_eq, hloadable, ?_⟩
    simp [Session.perform, ofLoaderStep, h.preloaded_eq, List.findSome?_append,
      LoaderRequest.languages?]

end Settled

/-- A session that starts is settled after any calls. -/
lemma settled_after (supply : GrammarSupply) {history : List LoaderRequest}
    (hcalls : ∀ request ∈ history, request.IsCall) :
    Settled supply history ((atStart supply).after history) := by
  induction history using List.reverseRecOn with
  | nil => exact settled_atStart supply
  | append_singleton history request ih =>
    rw [after_concat]
    exact (ih fun other hother => hcalls other (by simp [hother])).perform (hcalls request (by simp))

/-- **The first request to load grammars in advance counts.** After a history of requests to the
loader, under a supply of grammars that does not change, a request to load grammars in advance is
answered with the languages whose grammars can be loaded, in order, among those that the first such
request asked for; that is the request itself if there was none before.

**Proof sketch.** Only grammars are remembered that can be loaded, so the first request is answered
with the available ones (`Settled.answer_preload`), and its answer is kept. -/
theorem preload_answers_first (supply : GrammarSupply) (history : List LoaderRequest)
    (languages : List Language) (hcalls : ∀ request ∈ history, request.IsCall) :
    (((atStart supply).after history).perform (.preload languages)).answer =
      .loaded (supply.available (firstAsked history languages)) := by
  have hsettled := settled_after supply hcalls
  rw [Session.perform, ofLoaderStep, hsettled.supply_eq, hsettled.answer_preload]

/-- The language of a name, as a list to be loaded in advance. -/
def named (id : String) : List Language :=
  Language.all.filter (·.id == id)

/-- A second preloading of all languages repeats the answer to the first one, which named one
language. -/
theorem preload_answers_first_named :
    (∀ request ∈ [LoaderRequest.parse "go" .nothing, .preload (named "python")], request.IsCall) ∧
      (((atStart {}).after [.parse "go" .nothing, .preload (named "python")]).perform
        (.preload Language.all)).answer = .loaded ["python"] := by
  have hcalls : ∀ request ∈ [LoaderRequest.parse "go" .nothing, .preload (named "python")],
      request.IsCall := by
    simp [LoaderRequest.IsCall]
  exact ⟨hcalls, preload_answers_first {} _ Language.all hcalls⟩

/-- **A later request is not answered for its own languages**: all grammars are there, and yet the
answer to the second request names the language of the first. -/
theorem later_preload_answers_for_first :
    (∀ language ∈ named "python" ++ named "go", language ∈ Language.all) ∧
      (((atStart {}).after [.preload (named "python")]).perform (.preload (named "go"))).answer =
        .loaded ["python"] ∧
      ({} : GrammarSupply).available (named "go") = ["go"] := by
  refine ⟨?_, rfl, by decide⟩
  simp only [named, List.mem_append, List.mem_filter]
  rintro language (h | h) <;> exact h.1

end Session

end SourceLint
