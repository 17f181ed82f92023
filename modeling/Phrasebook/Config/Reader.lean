import Phrasebook.Config.Schema

/-!
## Reading configurations

A configuration can be written in several notations, and each has documents of its own kind.  What a
configuration asks of a document is the same for all: for the fields of a section, and for a field
to be a text, a truth value, a natural number or a table of catalogs.  A `Config.Reader` answers
these questions for one kind of documents.

* `Config.read?` reads a configuration with the answers of a reader.  Fields that are missing have
  their defaults, and fields that no section has are ignored.  Of a locale that stands twice among
  the catalogs the last one counts.
-/

namespace Phrasebook.Config

/-- What a notation with documents of type `α` tells a configuration.  There is no answer if the
document is not what is asked for; what else an answer may depend on is the matter of `m`. -/
structure Reader (m : Type → Type) (α : Type) where
  /-- The values of the named fields of a section, each if it is there.  A section that has one of
  them twice is none. -/
  fields? : List String → α → m (List (Option α))
  /-- A text. -/
  text? : α → m String
  /-- A text, or the word for no value. -/
  optionalText? : α → m (Option String)
  /-- A truth value. -/
  bool? : α → m Bool
  /-- A natural number of 64 bits. -/
  natural? : α → m Nat
  /-- Catalogs under their locales, in order. -/
  catalogs? : α → m (List (String × MessageTree))

section

variable {m : Type → Type} [Monad m] {α : Type}

/-- The value of a field that has a default. -/
def field? {β : Type} (initial : β) (read? : α → m β) : Option α → m β
  | none => pure initial
  | some d => read? d

namespace Reader

variable [MonadExcept Unit m] (r : Reader m α)

/-- The section of locales that a document describes. -/
def locale? (d : α) : m LocaleSection := do
  match ← r.fields? LocaleSection.fields d with
  | [locale, fallback] =>
    return ⟨← field? LocaleSection.initial.default r.text? locale,
      ← field? LocaleSection.initial.fallback r.text? fallback⟩
  | _ => throw ()

/-- The section of the source of catalogs that a document describes. -/
def remote? (d : α) : m RemoteSection := do
  match ← r.fields? RemoteSection.fields d with
  | [url, param, timeout] =>
    return ⟨← field? RemoteSection.initial.url r.optionalText? url,
      ← field? RemoteSection.initial.param r.text? param,
      ← field? RemoteSection.initial.timeout r.natural? timeout⟩
  | _ => throw ()

/-- The section of logging that a document describes. -/
def logging? (d : α) : m LoggingSection := do
  match ← r.fields? LoggingSection.fields d with
  | [level, json] =>
    return ⟨← field? LoggingSection.initial.level r.text? level,
      ← field? LoggingSection.initial.json r.bool? json⟩
  | _ => throw ()

/-- The catalogs that a document describes. -/
def messages? (d : α) : m (OrderedMap MessageTree) := do
  return OrderedMap.ofList (← r.catalogs? d)

end Reader

/-- The configuration that a document describes. -/
def read? [MonadExcept Unit m] (r : Reader m α) (d : α) : m Config := do
  match ← r.fields? Config.fields d with
  | [locale, remote, logging, messages] =>
    return ⟨← field? LocaleSection.initial r.locale? locale,
      ← field? RemoteSection.initial r.remote? remote,
      ← field? LoggingSection.initial r.logging? logging,
      ← field? OrderedMap.empty r.messages? messages⟩
  | _ => throw ()

end

end Phrasebook.Config
