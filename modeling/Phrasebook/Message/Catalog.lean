import Phrasebook.Message.Tree
import Phrasebook.Json.Parser
import Phrasebook.Json.Printer

/-!
## Catalogs as documents

A message tree is written as texts and tables and nothing else.

* `MessageTree.ofDocument?` reads a document; it fails if any value in it is neither a text nor a
  table, even one under a key that is repeated later.  A repeated key keeps its first place and
  takes its last value.
* `MessageTree.parse` reads JSON.  A text that is no JSON, or is nested too deep, is a fault of
  syntax, and JSON that is no message tree is a fault of data.  The value is judged before anything
  that follows it.
* `MessageTree.print` writes compact JSON.
-/

namespace Phrasebook

/-- Why a text is not a catalog. -/
inductive CatalogFault where
  /-- The text is not a JSON document of bounded depth. -/
  | syntactic
  /-- The document has values other than texts and tables. -/
  | data
  deriving DecidableEq, Repr

namespace MessageTree

mutual

/-- The tree that a document describes, if it has texts and tables only. -/
def ofDocument? : Document → Option MessageTree
  | .text s => some (.text s)
  | .table entries => (pairsOf? entries).map ofPairs
  | _ => none

/-- The trees that the values of a table describe, under their keys. -/
def pairsOf? : List (String × Document) → Option (List (String × MessageTree))
  | [] => some []
  | (key, d) :: rest =>
    match ofDocument? d, pairsOf? rest with
    | some t, some pairs => some ((key, t) :: pairs)
    | _, _ => none

end

mutual

/-- The document of a tree. -/
def toDocument : MessageTree → Document
  | .text s => .text s
  | .node cs => .table (entriesOf cs)

/-- The documents of children, under their keys. -/
def entriesOf : List (String × MessageTree) → List (String × Document)
  | [] => []
  | (key, c) :: rest => (key, toDocument c) :: entriesOf rest

end

/-- The greatest depth of lists and tables that a reader follows. -/
def depthLimit : Nat :=
  127

/-- The tree that a JSON text describes. -/
def parse (text : String) : Except CatalogFault MessageTree :=
  match Json.parse text.toList with
  | none => .error .syntactic
  | some (d, more) =>
    if depthLimit < d.depth || !d.isReadable then .error .syntactic
    else match ofDocument? d with
      | none => .error .data
      | some t => if more then .error .syntactic else .ok t

/-- The tree in compact JSON. -/
def print (t : MessageTree) : String :=
  Json.print t.toDocument

end MessageTree

end Phrasebook
