import SourceLint.Grammar.Loader

set_option autoImplicit false

/-!
# Histories of a loader

A loader lives in a world in which grammars come and go. A session is a loader together with the
supply of grammars at the moment, and a request either changes that supply, resets the loader, or
asks the loader for something.

## Main definitions

* `LoaderRequest` — what a session may be asked.
* `LoaderAnswer` — what it may answer.
* `Session.perform` — one request.
* `Session.after` — the session after a history of requests.
-/

namespace SourceLint

/-- What a session may be asked. -/
inductive LoaderRequest
  /-- Grammars come and go: from now on this is the supply. -/
  | supply (supply : GrammarSupply)
  /-- Forget everything. -/
  | reset
  /-- Load the grammars of languages in advance. -/
  | preload (languages : List Language)
  /-- Parse a source, about which the parser replies as given. -/
  | parse (grammar : String) (reply : ParserReply)

/-- What a session may answer. -/
inductive LoaderAnswer
  | done
  | loaded (languages : List String)
  | parsed (outcome : ParseOutcome)

/-- A loader together with the supply of grammars at the moment. -/
structure Session where
  supply : GrammarSupply := {}
  loader : Loader := .fresh

namespace Session

/-- The outcome of a request: what the loader does, and the supply after it. -/
structure Performed where
  session : Session
  loads : List String
  events : List Event
  answer : LoaderAnswer

/-- A step of the loader as the outcome of a request. -/
def ofLoaderStep {α : Type} (session : Session) (step : LoaderStep α) (answer : α → LoaderAnswer) :
    Performed where
  session := { session with loader := step.loader }
  loads := step.loads
  events := step.events
  answer := answer step.answer

/-- Carries out a request. -/
def perform (session : Session) : LoaderRequest → Performed
  | .supply supply => ⟨{ session with supply := supply }, [], [], .done⟩
  | .reset => ⟨{ session with loader := .fresh }, [], [], .done⟩
  | .preload languages =>
    ofLoaderStep session (session.loader.preload session.supply languages) .loaded
  | .parse grammar reply =>
    ofLoaderStep session (session.loader.parse session.supply grammar reply) .parsed

/-- Carries out requests one after the other; the outcome of each. -/
def performAll (session : Session) : List LoaderRequest → List Performed
  | [] => []
  | request :: rest =>
    let performed := session.perform request
    performed :: performAll performed.session rest

/-- The session after a history of requests. -/
def after (session : Session) (history : List LoaderRequest) : Session :=
  history.foldl (fun session request => (session.perform request).session) session

end Session

end SourceLint
