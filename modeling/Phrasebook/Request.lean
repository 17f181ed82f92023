import Phrasebook.Message.Catalog
import Phrasebook.Url.Form
import Phrasebook.Url.Parser

/-!
## Catalog requests

The catalog of a locale is fetched from a URL that names the locale in one parameter of its query.
The other parameters of the base URL are kept in order.

* `Request.make` builds the request of a locale.
* `LoadError` says why a catalog could not be loaded or a locale not be made active.
-/

namespace Phrasebook

/-- Why loading a catalog or switching to a locale failed. -/
inductive LoadError where
  /-- The locale has no catalog. -/
  | localeNotLoaded (locale : String)
  /-- The source of catalogs answered with a status that is no success. -/
  | fetchFailed (status : Nat) (reason : String)
  /-- The source of catalogs could not be reached, with what that was caused by, in words. -/
  | network (message : String) (causes : List String)
  /-- What was fetched is no catalog. -/
  | invalidCatalog (fault : CatalogFault)
  /-- The URL of the source is none. -/
  | invalidUrl (url : String) (fault : Url.Fault)
  deriving DecidableEq, Repr

/-- The fault of a catalog in words.  For a text that is no JSON document they stand in for those of
the JSON reader, which say what is wrong and where; these are not modelled. -/
def CatalogFault.reason : CatalogFault → String
  | .syntactic => "the text is not a JSON document"
  | .data => "data did not match any variant of untagged enum MessageTree"

namespace LoadError

/-- The error in words. -/
def message : LoadError → String
  | .localeNotLoaded locale =>
    "Translations for language " ++ locale ++
      " are not loaded yet. Load them with `load_translations(\"" ++ locale ++ "\")` first."
  | .fetchFailed status reason =>
    "Error " ++ String.ofList (Text.decimal status) ++ ": " ++ reason
  | .network message _ => "Network error: " ++ message
  | .invalidCatalog fault => "Invalid catalog document: " ++ fault.reason
  | .invalidUrl url fault => "Invalid catalog URL '" ++ url ++ "': " ++ fault.reason

/-- What the error was caused by, in words. -/
def causes : LoadError → List String
  | .invalidCatalog fault => [fault.reason]
  | .invalidUrl _ fault => [fault.reason]
  | .network _ causes => causes
  | _ => []

/-- The locale that the error is about, if it is about one. -/
def locale? : LoadError → Option String
  | .localeNotLoaded locale => some locale
  | _ => none

end LoadError

/-- A request for the catalog of a locale. -/
structure Request where
  /-- The locale whose catalog is wanted. -/
  locale : String
  /-- The URL that is asked. -/
  url : Url
  deriving DecidableEq, Repr

namespace Request

/-- The pairs of a query with the value of `param` set to `value`: it stands once, at the end. -/
def setParam (param value : String) (pairs : List (String × String)) : List (String × String) :=
  (pairs.filter fun pair => pair.1 ≠ param) ++ [(param, value)]

/-- A URL with the value of `param` in its query set to `value`. -/
def withParam (u : Url) (param value : String) : Url :=
  let pairs := Url.Form.parse (u.query.getD [])
  { u with query := some (Url.Form.render (setParam param value pairs)) }

/-- The request for `locale` to the source at `base`, with the locale in the parameter `param`. -/
def make (base param locale : String) : Except LoadError Request :=
  match Url.parse base with
  | .ok u => .ok ⟨locale, withParam u param locale⟩
  | .error fault => .error (.invalidUrl base fault)

end Request

end Phrasebook
