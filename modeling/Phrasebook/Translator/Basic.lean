import Phrasebook.Choice.Rule
import Phrasebook.Event
import Phrasebook.Key
import Phrasebook.Store
import Phrasebook.Substitution

/-!
## Translators

A translator holds catalogs, an active locale and a fallback.  A key is looked up in the catalog of
the active locale if that is loaded, and otherwise in that of the fallback; a key that is missing
from the first is not looked up in the second.  Lookup never fails: a key without a text is its own
text.

* `Translator.translate` looks a key up and puts the arguments in.
* `Translator.translateCountable` chooses a variant of the result for a count.
* `Translator.lookupEvents` says what a lookup reports.
-/

namespace Phrasebook

/-- Where catalogs are fetched from. -/
structure Remote where
  /-- The URL of the source. -/
  url : String
  /-- The parameter of its query that names the locale. -/
  param : String
  deriving DecidableEq, Repr

/-- Catalogs with an active locale. -/
structure Translator where
  /-- The loaded catalogs. -/
  store : Store
  /-- The active locale. -/
  locale : String
  /-- The locale whose catalog is used while the active one has none. -/
  fallback : String
  /-- Where missing catalogs are fetched from, if anywhere. -/
  remote : Option Remote

namespace Translator

/-- The part of the program that translators speak for. -/
def target : String :=
  "polyglot_i18n::translator"

/-- The catalog in effect with its locale: that of the active locale, or else of the fallback. -/
def effective (t : Translator) : Option (String × MessageTree) :=
  match t.store.catalog t.locale with
  | some tree => some (t.locale, tree)
  | none => (t.store.catalog t.fallback).map fun tree => (t.fallback, tree)

/-- The text of a key in the catalog in effect, or the key. -/
def lookup (t : Translator) (key : String) : String :=
  match t.effective with
  | some (_, tree) => (resolve key tree).textOr key
  | none => key

/-- What looking up a key reports: nothing if the text is there, and otherwise one event. -/
def lookupEvents (t : Translator) (key : String) : List Event :=
  match t.effective with
  | none => [.outside .warn target ("Translation for " ++ key ++ " not found")]
  | some (locale, tree) =>
    match resolve key tree with
    | .found _ => []
    | .keyAsText =>
      [.outside .debug target
        ("Phrase '" ++ key ++ "' has no entry in locale " ++ locale ++ ", using it as text")]
    | .notFound =>
      [.outside .warn target ("Translation for " ++ key ++ " not found in locale " ++ locale)]

/-- The text of a key with the arguments put in. -/
def translate (t : Translator) (key : String) (args : Args) : String :=
  substitute (t.lookup key) args

/-- The variant for a count of the text of a key with the arguments put in. -/
def translateCountable (t : Translator) (key : String) (count : Int64) (args : Args) : String :=
  Choice.choose (t.translate key args) count

/-- What translating with a count reports: the events of the lookup, and the text whose variants are
chosen from. -/
def countableEvents (t : Translator) (key : String) (count : Int64) (args : Args) : List Event :=
  t.lookupEvents key ++
    [.outside .trace target
      ("Choosing variant for count " ++ String.ofList (Text.decimalInt count.toInt) ++ " in '" ++
        t.translate key args ++ "'")]

/-- A translator in words: its locales and the URL of its source. -/
def describe (t : Translator) : String :=
  let url :=
    match t.remote with
    | some remote => "Some(" ++ Text.quote remote.url ++ ")"
    | none => "None"
  "Translator \x7b locale: " ++ Text.quote t.locale ++ ", fallback_locale: " ++
    Text.quote t.fallback ++ ", loaded_locales: " ++ Text.quoteList t.store.locales ++
    ", translation_url: " ++ url ++ ", .. \x7d"

end Translator

end Phrasebook
