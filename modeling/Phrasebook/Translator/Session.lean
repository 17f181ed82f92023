import Phrasebook.Fetch
import Phrasebook.Translator.Basic

/-!
## Sessions

A session is a translator at work: with the fetcher it asks, the preference that its active locale
is written to, and a journal of the fetches it has made and the events it has reported.  Each
operation is a function from sessions to sessions that also gives a result.

* `Session.activate` makes a loaded locale the active one.
* `Session.load` fetches a catalog if it is needed, stores it and makes its locale active.
* `Session.setLocale` does both.
* `Session.Operation` lists the operations, and `Session.run` performs them in order.
-/

namespace Phrasebook

/-- The locale of a program that has not chosen any. -/
def defaultLocale : String :=
  "en"

/-- The locale that is kept outside the translator, such as in an attribute of a document or in the
settings of a user; it may be missing. -/
abbrev Preference := Option String

/-- The locale that a preference stands for. -/
def Preference.current (p : Preference) : String :=
  p.getD defaultLocale

/-- A translator at work with a fetcher in state `σ`. -/
structure Session (σ : Type) where
  /-- The catalogs and locales. -/
  translator : Translator
  /-- Where the active locale is written to. -/
  preference : Preference
  /-- The state of the fetcher. -/
  source : σ
  /-- The fetches that were made, in order. -/
  fetches : List Fetch
  /-- The events that were reported, in order. -/
  events : List Event

namespace Session

variable {σ : Type}

/-- The session with one more event. -/
def note (s : Session σ) (level : Level) (target message : String) : Session σ :=
  { s with events := s.events ++ [.outside level target message] }

/-- The session with an empty journal. -/
def fresh (s : Session σ) : Session σ :=
  { s with fetches := [], events := [] }

/-- The part of the program that the store of catalogs speaks for. -/
def storeTarget : String :=
  "polyglot_i18n::store"

/-- What storing a catalog reports. -/
def storeEvent (locale : String) (tree : MessageTree) : Event :=
  .outside .debug storeTarget ("Storing catalog for locale " ++ locale ++ " (" ++
    String.ofList (Text.decimal tree.leafCount) ++ " entries)")

/-- Stores `tree` as the catalog of `locale`.  The active locale stays. -/
def setCatalog (s : Session σ) (locale : String) (tree : MessageTree) : Session σ :=
  { s with
    translator := { s.translator with store := s.translator.store.set locale tree }
    events := s.events ++ [storeEvent locale tree] }

/-- Sets the fallback.  It need not have a catalog. -/
def setFallback (s : Session σ) (locale : String) : Session σ :=
  { s with translator := { s.translator with fallback := locale } }

/-- Someone else writes to the preference. -/
def writePreference (s : Session σ) (locale : String) : Session σ :=
  { s with preference := some locale }

/-- Makes `locale` the active locale and writes it to the preference, if it has a catalog. -/
def activate (s : Session σ) (locale : String) : Except LoadError Unit × Session σ :=
  if s.translator.store.has locale then
    (.ok (),
      { s with
        translator := { s.translator with locale := locale }
        preference := some locale }.note .info Translator.target
          ("Active locale set to " ++ locale))
  else
    (.error (.localeNotLoaded locale),
      s.note .warn Translator.target
        ("Refusing to switch to locale " ++ locale ++ " without a loaded catalog"))

/-- Where the catalog of `locale` is to be fetched from, if it is: there has to be a source, and the
locale has to be missing unless the fetch is forced. -/
def needsFetch (s : Session σ) (locale : String) (force : Bool) : Option Remote × Session σ :=
  match s.translator.remote with
  | none =>
    (none, s.note .debug Translator.target
      ("No translation URL configured, skipping load of " ++ locale))
  | some remote =>
    if s.translator.store.has locale && !force then
      (none, s.note .debug Translator.target ("Locale " ++ locale ++ " already loaded"))
    else (some remote, s)

/-- Asks the fetcher. -/
def ask (fetcher : Fetcher σ) (mode : Mode) (request : Request) (s : Session σ) :
    Except LoadError MessageTree × Session σ :=
  let (answer, source) := fetcher mode request s.source
  (answer.result,
    { s with
      source := source
      fetches := s.fetches ++ [⟨mode, request⟩]
      events := s.events ++ answer.events })

/-- Loads the catalog of `locale` from the source, if that is needed, and makes it active. -/
def load (fetcher : Fetcher σ) (mode : Mode) (locale : String) (force : Bool) (s : Session σ) :
    Except LoadError Unit × Session σ :=
  match s.needsFetch locale force with
  | (none, s) => (.ok (), s)
  | (some remote, s) =>
    match Request.make remote.url remote.param locale with
    | .error e => (.error e, s)
    | .ok request =>
      match s.ask fetcher mode request with
      | (.error e, s) => (.error e, s)
      | (.ok tree, s) => (s.setCatalog locale tree).activate locale

/-- Makes `locale` active, and loads its catalog first if that is needed. -/
def setLocale (fetcher : Fetcher σ) (mode : Mode) (locale : String) (s : Session σ) :
    Except LoadError Unit × Session σ :=
  match s.load fetcher mode locale false with
  | (.error e, s) => (.error e, s)
  | (.ok (), s) => s.activate locale

/-- Translates a key and reports what the lookup says. -/
def translate (s : Session σ) (key : String) (args : Args) : String × Session σ :=
  (s.translator.translate key args,
    { s with events := s.events ++ s.translator.lookupEvents key })

/-- Translates a key for a count and reports what the lookup says. -/
def translateCountable (s : Session σ) (key : String) (count : Int64) (args : Args) :
    String × Session σ :=
  (s.translator.translateCountable key count args,
    { s with events := s.events ++ s.translator.countableEvents key count args })

/-! ### Runs -/

/-- What can be done in a session. -/
inductive Operation where
  | translate (key : String) (args : Args)
  | countable (key : String) (count : Int64) (args : Args)
  | setCatalog (locale : String) (tree : MessageTree)
  | activate (locale : String)
  | setFallback (locale : String)
  | load (mode : Mode) (locale : String) (force : Bool)
  | setLocale (mode : Mode) (locale : String)
  /-- Someone else writes to the preference. -/
  | writePreference (locale : String)

/-- What an operation gives. -/
inductive Outcome where
  | text (s : String)
  /-- The catalog that was replaced. -/
  | replaced (tree : Option MessageTree)
  | done
  | failed (e : LoadError)

/-- The outcome of an operation that succeeds or fails. -/
def Outcome.ofResult : Except LoadError Unit → Outcome
  | .ok () => .done
  | .error e => .failed e

/-- Performs one operation. -/
def perform (fetcher : Fetcher σ) (op : Operation) (s : Session σ) : Outcome × Session σ :=
  match op with
  | .translate key args => ((s.translate key args).map Outcome.text id)
  | .countable key count args => ((s.translateCountable key count args).map Outcome.text id)
  | .setCatalog locale tree =>
    (.replaced (s.translator.store.catalog locale), s.setCatalog locale tree)
  | .activate locale => (s.activate locale).map Outcome.ofResult id
  | .setFallback locale => (.done, s.setFallback locale)
  | .load mode locale force => (s.load fetcher mode locale force).map Outcome.ofResult id
  | .setLocale mode locale => (s.setLocale fetcher mode locale).map Outcome.ofResult id
  | .writePreference locale => (.done, s.writePreference locale)

/-- Performs operations in order, and gives the outcome of each with the session behind it. -/
def run (fetcher : Fetcher σ) : List Operation → Session σ → List (Outcome × Session σ)
  | [], _ => []
  | op :: ops, s =>
    let r := s.perform fetcher op
    r :: run fetcher ops r.2

end Session

end Phrasebook
