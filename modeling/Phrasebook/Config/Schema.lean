import Phrasebook.Logging
import Phrasebook.Message.Catalog
import Phrasebook.Translator.Builder

/-!
## Configurations

A configuration selects locales, a source of catalogs and a way of logging, and brings catalogs of
its own.  Every part of it has a default.

* `Config.toDocument` lists all its fields in their order.
* `Config.same` compares two configurations.
* `Config.builder` gives the builder of its translator.
-/

namespace Phrasebook

/-- Which locales are used. -/
structure LocaleSection where
  /-- The locale that is active at the start. -/
  default : String
  /-- The locale that is used while the active one has no catalog. -/
  fallback : String
  deriving DecidableEq, Repr

/-- Where catalogs are fetched from. -/
structure RemoteSection where
  /-- The URL of the source; nothing is fetched without it. -/
  url : Option String
  /-- The parameter that names the locale in a request. -/
  param : String
  /-- How many seconds a request may take. -/
  timeout : Nat
  deriving DecidableEq, Repr

/-- How events are logged. -/
structure LoggingSection where
  /-- The filter for events. -/
  level : String
  /-- Whether an event is written as a JSON object. -/
  json : Bool
  deriving DecidableEq, Repr

/-- A configuration. -/
structure Config where
  locale : LocaleSection
  remote : RemoteSection
  logging : LoggingSection
  /-- The catalogs that need not be fetched, by locale. -/
  messages : OrderedMap MessageTree

namespace LocaleSection

/-- The names of the fields in order. -/
def fields : List String :=
  ["default_locale", "fallback_locale"]

/-- The default section. -/
def initial : LocaleSection :=
  ⟨defaultLocale, defaultLocale⟩

/-- The section as a document. -/
def toDocument (s : LocaleSection) : Document :=
  .table (fields.zip [.text s.default, .text s.fallback])

end LocaleSection

namespace RemoteSection

/-- The names of the fields in order. -/
def fields : List String :=
  ["translation_url", "lang_query_param", "timeout_secs"]

/-- The default section. -/
def initial : RemoteSection :=
  ⟨none, defaultParam, 30⟩

/-- The section as a document. -/
def toDocument (s : RemoteSection) : Document :=
  let url := match s.url with
    | some url => Document.text url
    | none => .null
  .table (fields.zip [url, .text s.param, .number (Numeral.ofNat s.timeout)])

end RemoteSection

namespace LoggingSection

/-- The names of the fields in order. -/
def fields : List String :=
  ["level", "json_format"]

/-- The default section. -/
def initial : LoggingSection :=
  ⟨"warn", false⟩

/-- The section as a document. -/
def toDocument (s : LoggingSection) : Document :=
  .table (fields.zip [.text s.level, .bool s.json])

/-- The logging that the section describes. -/
def logging (s : LoggingSection) : Logging :=
  { Logging.initial with level := s.level, json := s.json }

end LoggingSection

namespace Config

/-- The names of the sections in order. -/
def fields : List String :=
  ["locale", "remote", "logging", "messages"]

/-- The default configuration. -/
def initial : Config :=
  ⟨LocaleSection.initial, RemoteSection.initial, LoggingSection.initial, OrderedMap.empty⟩

/-- The configuration as a document. -/
def toDocument (c : Config) : Document :=
  .table (fields.zip [c.locale.toDocument, c.remote.toDocument, c.logging.toDocument,
    .table (MessageTree.entriesOf c.messages.toList)])

/-- The configuration in compact JSON. -/
def print (c : Config) : String :=
  Json.print c.toDocument

/-- Whether two configurations are equal; the order of catalogs and of their entries does not
matter. -/
def same (c d : Config) : Bool :=
  c.locale = d.locale && c.remote = d.remote && c.logging = d.logging &&
    (MessageTree.node c.messages.toList).same (.node d.messages.toList)

/-! ### Use -/

/-- The builder of the translator that the configuration describes. -/
def builder (c : Config) : Builder :=
  { Builder.empty.messages c.messages.toList with
    fallback := c.locale.fallback
    url := c.remote.url
    param := c.remote.param
    preference := some c.locale.default }

end Config

end Phrasebook
