import Phrasebook.Config.Reader
import Phrasebook.Toml.Parser

/-!
## Configurations in TOML

A section is a table, or a list of its fields in order; what such a list has beyond the fields is
ignored.  Catalogs are tables of texts and tables.  A date or time is seen as a table with one
entry, its text under a reserved key.
-/

namespace Phrasebook.Config.Toml

open Phrasebook.Toml

/-- The key of the text in the table that a date or time is seen as. -/
def dateTimeKey : String :=
  "$__toml_private_datetime"

/-- The entries of a table, or of a date or time. -/
def entries? : Value → Option (Entries Value)
  | .table entries => some entries
  | .dateTime t => some [(dateTimeKey, .text (String.ofList t.text))]
  | _ => none

/-- The values of the named fields of a section. -/
def fields? (names : List String) : Value → Option (List (Option Value))
  | .list items => some (names.zipIdx.map fun (_, i) => items[i]?)
  | v => (entries? v).map fun entries => names.map fun name => entries.find? name

/-- The text of a value. -/
def text? : Value → Option String
  | .text s => some s
  | _ => none

/-- The truth value of a value. -/
def bool? : Value → Option Bool
  | .bool b => some b
  | _ => none

/-- The natural number of a value. -/
def natural? : Value → Option Nat
  | .integer n => if 0 ≤ n then some n.toNat else none
  | _ => none

mutual

/-- The message tree of a value, if it has texts and tables only. -/
def tree? : Value → Option MessageTree
  | .text s => some (.text s)
  | .table entries => (trees? entries).map MessageTree.ofPairs
  | .dateTime t => some (.node [(dateTimeKey, .text (String.ofList t.text))])
  | _ => none

/-- The message trees of values, under their keys. -/
def trees? : List (String × Value) → Option (List (String × MessageTree))
  | [] => some []
  | (key, v) :: rest =>
    match tree? v, trees? rest with
    | some t, some ts => some ((key, t) :: ts)
    | _, _ => none

end

/-- The catalogs in a table. -/
def catalogs? (v : Value) : Option (List (String × MessageTree)) :=
  (entries? v).bind trees?

/-- What a TOML value tells a configuration.  There is no word for no value. -/
def reader : Reader Option Value :=
  ⟨fields?, text?, fun v => (text? v).map some, bool?, natural?, catalogs?⟩

/-- The configuration that a TOML text describes. -/
def parse? (text : String) : Option Config :=
  (Phrasebook.Toml.parse text.toList).bind fun entries => read? reader (.table entries)

end Phrasebook.Config.Toml
