import Phrasebook.Message.Tree
import Phrasebook.Text.Split

/-!
## Keys

A key of two or more words is a phrase: it is looked up as it stands among the children of the root,
and it is its own text if it is not there.  Any other key is a path, with a dot between the names
that lead to a text.
-/

namespace Phrasebook

open Phrasebook.Text

/-- How a key is looked up. -/
inductive KeyKind where
  /-- As a whole, at the root. -/
  | phrase
  /-- Name by name. -/
  | path
  deriving DecidableEq, Repr

/-- A key with two or more words is a phrase. -/
def KeyKind.of (key : String) : KeyKind :=
  if 2 ≤ (words key.toList).length then .phrase else .path

/-- The names in a path key. -/
def pathSegments (key : String) : List String :=
  (splitAt '.' key.toList).map String.ofList

/-- What looking up a key gives. -/
inductive Resolution where
  /-- The catalog has this text. -/
  | found (text : String)
  /-- The key is a phrase that the catalog does not have, and is its own text. -/
  | keyAsText
  /-- The key is a path that does not lead to a text. -/
  | notFound
  deriving DecidableEq, Repr

namespace Resolution

/-- The text that was found, or else the key. -/
def textOr (r : Resolution) (key : String) : String :=
  match r with
  | .found text => text
  | .keyAsText | .notFound => key

/-- Whether the catalog has the text. -/
def isFound : Resolution → Bool
  | .found _ => true
  | .keyAsText | .notFound => false

end Resolution

/-- Looks a key up in a catalog. -/
def resolve (key : String) (catalog : MessageTree) : Resolution :=
  match KeyKind.of key with
  | .phrase =>
    match (catalog.child key).bind MessageTree.asText with
    | some text => .found text
    | none => .keyAsText
  | .path =>
    match catalog.lookup (pathSegments key) with
    | some text => .found text
    | none => .notFound

end Phrasebook
