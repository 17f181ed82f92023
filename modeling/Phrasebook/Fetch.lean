import Phrasebook.Event
import Phrasebook.Request

/-!
## Fetching catalogs

A fetcher answers requests for catalogs.  It may wait in one of two modes, and it may keep a state
of its own from one request to the next, so its answers can differ from call to call.

* `Fetcher.constant` answers every request for a locale from a function.
* `Fetcher.http` asks servers.  How a reply comes about is left open: it takes any exchange of
  requests for replies, and makes of each reply a catalog or an error (`Reply.result`).
* `Fetcher.unreachable` is the one for which no server can be reached.
-/

namespace Phrasebook

/-- How a fetch waits for its answer. -/
inductive Mode where
  /-- Without holding up its thread. -/
  | async
  /-- Holding up its thread. -/
  | blocking
  deriving DecidableEq, Repr

/-- The word for a mode. -/
def Mode.name : Mode → String
  | .async => "async"
  | .blocking => "blocking"

/-- What a fetcher answers, and what it says meanwhile. -/
structure Answer where
  result : Except LoadError MessageTree
  events : List Event

/-- A source of catalogs with a state of type `σ`. -/
abbrev Fetcher (σ : Type) := Mode → Request → σ → Answer × σ

/-- A request that has been made. -/
structure Fetch where
  mode : Mode
  request : Request
  deriving DecidableEq, Repr

/-- What comes of a request. -/
inductive Reply where
  /-- There is no client that could send it. -/
  | noClient (causes : List String)
  /-- It is sent, and nothing comes back. -/
  | unreached (causes : List String)
  /-- A server answers with a status, the phrase for the status if there is one, and a body that may
  break off. -/
  | answered (status : Nat) (phrase : Option String) (body : Except (List String) String)

/-- The catalog in a reply, or why there is none. -/
def Reply.result : Reply → Except LoadError MessageTree
  | .noClient causes => .error (.network "Failed to create HTTP client" causes)
  | .unreached causes => .error (.network "Catalog request failed" causes)
  | .answered status phrase body =>
    if 200 ≤ status ∧ status < 300 then
      match body with
      | .error causes => .error (.network "Failed to read catalog body" causes)
      | .ok text => (MessageTree.parse text).mapError .invalidCatalog
    else .error (.fetchFailed status (phrase.getD "Unknown"))

/-- How requests are exchanged for replies, with what is reported meanwhile. -/
abbrev Exchange (σ : Type) := Mode → Request → σ → (Reply × List Event) × σ

namespace Fetcher

/-- The fetcher that answers for each locale what a function says. -/
def constant (answer : String → Except LoadError MessageTree) : Fetcher Unit :=
  fun _ request state => (⟨answer request.locale, []⟩, state)

/-- The part of the program that fetches speak for. -/
def target : String :=
  "polyglot_i18n::fetch"

/-- The span of work of a fetch that does not hold up its thread. -/
def span (request : Request) : Span :=
  ⟨.info, target, "fetch", [("locale", request.locale)]⟩

/-- The schemes that a client knows. -/
def knownSchemes : List (List Char) :=
  ["http".toList, "https".toList]

/-- What a failure to reach the server of a request is caused by.  A request with an unknown scheme
is not made; its credentials are not repeated. -/
def unreachableCauses (request : Request) : List String :=
  if knownSchemes.contains request.url.scheme then []
  else
    let reason := "URL scheme is not allowed"
    let url := request.url.withoutCredentials.toString
    ["builder error for url (" ++ url ++ "): " ++ reason, reason]

/-- The fetcher that asks servers. -/
def http {σ : Type} (exchange : Exchange σ) : Fetcher σ := fun mode request state =>
  let ((reply, events), state) := exchange mode request state
  (⟨reply.result, events⟩, state)

/-- The fetcher that reaches no server.  The client for blocking fetches is made when it is first
needed; the state says whether it has been. -/
def unreachable : Fetcher Bool := http fun mode request ready =>
  let url := request.url.toString
  let events :=
    match mode with
    | .async => [⟨.debug, target, "Fetching catalog from " ++ url, some (span request)⟩]
    | .blocking =>
      .outside .debug target ("Fetching catalog (blocking) from " ++ url) ::
        if ready then [] else [.outside .debug target "Creating blocking HTTP client"]
  ((.unreached (unreachableCauses request), events), ready || mode = .blocking)

end Fetcher

end Phrasebook
