import Phrasebook.Config.Reader
import Phrasebook.Message.Catalog

/-!
## Configurations in JSON

A section is a table, or a list of its fields in order that may be shorter than the section.
Catalogs are tables of message trees, nested no deeper than a reader of JSON follows them.
-/

namespace Phrasebook.Config.Json

/-- The values of the named fields of a section. -/
def fields? (names : List String) : Document → Option (List (Option Document))
  | .table entries => names.mapM fun name =>
      match Document.valuesAt name entries with
      | [] => some none
      | [value] => some (some value)
      | _ => none
  | .list items =>
    if items.length ≤ names.length then some (names.zipIdx.map fun (_, i) => items[i]?)
    else none
  | _ => none

/-- The text of a document. -/
def text? : Document → Option String
  | .text s => some s
  | _ => none

/-- The text of a document, or nothing for the value `null`. -/
def optionalText? : Document → Option (Option String)
  | .text s => some (some s)
  | .null => some none
  | _ => none

/-- The truth value of a document. -/
def bool? : Document → Option Bool
  | .bool b => some b
  | _ => none

/-- The natural number of 64 bits of a document, written without a point and without an exponent. -/
def natural? : Document → Option Nat
  | .number n => n.natural?.filter (· < UInt64.size)
  | _ => none

/-- The catalogs in a table.  The table of a configuration is one more level around them. -/
def catalogs? : Document → Option (List (String × MessageTree))
  | .table entries =>
    if MessageTree.depthLimit ≤ (Document.table entries).depth then none
    else MessageTree.pairsOf? entries
  | _ => none

/-- What a JSON document tells a configuration. -/
def reader : Reader Option Document :=
  ⟨fields?, text?, optionalText?, bool?, natural?, catalogs?⟩

/-- The configuration that a JSON text describes. -/
def parse? (text : String) : Option Config :=
  (Phrasebook.Json.parseAll text.toList).bind (read? reader)

end Phrasebook.Config.Json
