import Phrasebook.Translator.Session

/-!
## Building translators

A builder collects catalogs and settings.  Building reads the active locale from the preference;
installing also loads the catalog of that locale.

* `Builder.build` and `Builder.install` begin a session with a fetcher that is there.
* `Builder.attempt` installs with one whose client is made on the way, which can fail.
-/

namespace Phrasebook

/-- The parameter that names the locale in a request if no other is set. -/
def defaultParam : String :=
  "lang"

/-- What a translator is built from. -/
structure Builder where
  /-- The catalogs that are there from the start. -/
  store : Store
  /-- The fallback. -/
  fallback : String
  /-- The URL of the source of catalogs, if there is one. -/
  url : Option String
  /-- The parameter that names the locale in a request. -/
  param : String
  /-- The preference with the locale to start with. -/
  preference : Preference
  /-- The events so far. -/
  events : List Event

namespace Builder

/-- The builder without catalogs and with default settings. -/
def empty : Builder where
  store := Store.empty
  fallback := defaultLocale
  url := none
  param := defaultParam
  preference := none
  events := []

/-- The builder with `tree` as the catalog of `locale`. -/
def catalog (b : Builder) (locale : String) (tree : MessageTree) : Builder :=
  { b with
    store := b.store.set locale tree
    events := b.events ++ [Session.storeEvent locale tree] }

/-- The builder with all these catalogs set in order. -/
def messages (b : Builder) (catalogs : List (String × MessageTree)) : Builder :=
  catalogs.foldl (fun b pair => b.catalog pair.1 pair.2) b

/-- The session in which the translator works, with a fetcher in state `source`. -/
def build {σ : Type} (b : Builder) (source : σ) : Session σ :=
  let locale := b.preference.current
  { translator :=
      { store := b.store
        locale := locale
        fallback := b.fallback
        remote := b.url.map fun url => ⟨url, b.param⟩ }
    preference := b.preference
    source := source
    fetches := []
    events := b.events ++
      [.outside .debug Translator.target ("Building translator: locale " ++ locale ++
        ", fallback " ++ b.fallback ++ ", " ++ String.ofList (Text.decimal b.store.size) ++
        " preloaded catalogs")] }

/-- The session in which the translator works, after the catalog of the first locale has been
loaded if that is needed. -/
def install {σ : Type} (b : Builder) (fetcher : Fetcher σ) (mode : Mode) (source : σ) :
    Except LoadError Unit × Session σ :=
  let s := b.build source
  s.load fetcher mode s.translator.locale false

/-- The state of the fetcher to start with, if a client has yet to be made: that is done only if
there is a source of catalogs, and it may fail.  Without a source the state is `idle`. -/
def connect {σ : Type} (b : Builder) (client : Except LoadError σ) (idle : σ) :
    Except LoadError σ :=
  match b.url with
  | none => .ok idle
  | some _ => client

/-- Installs with a client that has yet to be made.  What is left is the session or the error, and
the preference in either case. -/
def attempt {σ : Type} (b : Builder) (fetcher : Fetcher σ) (mode : Mode)
    (client : Except LoadError σ) (idle : σ) : Except LoadError (Session σ) × Preference :=
  match b.connect client idle with
  | .error e => (.error e, b.preference)
  | .ok source =>
    let (result, s) := b.install fetcher mode source
    (result.map fun _ => s, s.preference)

end Builder

end Phrasebook
