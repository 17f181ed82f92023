import Phrasebook.Config.Schema
import Phrasebook.Failure
import Phrasebook.LanguageTag

/-!
## Valid configurations

A configuration can be well-formed and still make no sense.  Validation checks its fields in order
and reports the first that breaks its rule: locale codes have to be language tags, the parameter
that names the locale must not be blank, a request has to have some time, and the URL of the source
has to be one.
-/

namespace Phrasebook

/-- Checks that a code is a language tag, and names the field that it stands in if not. -/
def validateLocale (code field : String) : Except Failure Unit :=
  match LanguageTag.check code with
  | .ok () => .ok ()
  | .error fault =>
    .error (.validation ("Invalid locale code '" ++ code ++ "': Parser error: " ++ fault.reason)
      (some field))

namespace Config

/-- Checks the locale codes of catalogs in order. -/
def validateLocales : List String → Except Failure Unit
  | [] => .ok ()
  | locale :: rest =>
    match validateLocale locale ("messages." ++ locale) with
    | .ok () => validateLocales rest
    | .error f => .error f

/-- Checks that the parameter that names the locale has a character outside white space. -/
def validateParam (param : String) : Except Failure Unit :=
  if Text.allBlank param.toList then
    .error (.validation "Query parameter name cannot be empty" (some "remote.lang_query_param"))
  else .ok ()

/-- Checks that a request has some time. -/
def validateTimeout (timeout : Nat) : Except Failure Unit :=
  if timeout = 0 then
    .error (.validation "Timeout must be greater than 0" (some "remote.timeout_secs"))
  else .ok ()

/-- Checks that the URL of the source is one. -/
def validateUrl : Option String → Except Failure Unit
  | none => .ok ()
  | some url =>
    match Url.parse url with
    | .ok _ => .ok ()
    | .error fault =>
      .error (.validation ("Invalid translation URL '" ++ url ++ "': " ++ fault.reason)
        (some "remote.translation_url"))

/-- Checks a configuration and reports the first field that breaks its rule. -/
def validate (c : Config) : Except Failure Unit := do
  validateLocale c.locale.default "locale.default_locale"
  validateLocale c.locale.fallback "locale.fallback_locale"
  validateLocales c.messages.keys
  validateParam c.remote.param
  validateTimeout c.remote.timeout
  validateUrl c.remote.url

end Config

end Phrasebook
