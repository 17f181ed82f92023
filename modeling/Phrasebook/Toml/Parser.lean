import Phrasebook.Toml.Scalar

/-!
## Reading TOML

A document is a sequence of expressions, each on a line of its own: the header of a table, the
header of a list of tables, or a value under a key.  Lists may go over several lines.

* `parse` gives the entries of the table that a document describes.
-/

namespace Phrasebook.Toml

open Phrasebook.Text

/-- The greatest number of parts that a key may have, and of lists and tables around a value. -/
def nestingLimit : Nat :=
  79

/-! ### Blanks, comments and line breaks -/

/-- A text without the comment at its start, if there is one there. -/
def skipComment : List Char → List Char
  | '#' :: s => s.dropWhile isPlain
  | s => s

/-- The next line, if only blanks and a comment are left of this one. -/
def nextLine? (s : List Char) : Option (List Char) :=
  match skipComment (skipBlanks s) with
  | [] => some []
  | s => dropBreak? s

/-- A text without the blanks, comments and line breaks at its start. -/
def skipLines : Nat → List Char → List Char
  | 0, s => s
  | fuel + 1, s =>
    match skipComment (skipBlanks s) with
    | [] => []
    | c :: rest =>
      match dropBreak? (c :: rest) with
      | some rest => skipLines fuel rest
      | none => c :: rest

/-! ### Keys -/

/-- Whether a character may stand in a key without quotes. -/
def isBareKeyChar (c : Char) : Bool :=
  c.isAlphanum || c == '_' || c == '-'

/-- One part of a key, and the rest. -/
def readKeyPart (s : List Char) : Option (String × List Char) :=
  match s with
  | '"' :: _ | '\'' :: _ => readKeyString s
  | _ =>
    match s.takeWhile isBareKeyChar with
    | [] => none
    | name => some (String.ofList name, s.dropWhile isBareKeyChar)

/-- The parts of a key before the last, the last part, and the rest behind the blanks that follow.
-/
def readKey : Nat → List Char → Option (List String × String × List Char)
  | 0, _ => none
  | fuel + 1, s => do
    let (part, s) ← readKeyPart (skipBlanks s)
    match skipBlanks s with
    | '.' :: s =>
      let (path, key, s) ← readKey fuel s
      return (part :: path, key, s)
    | s => return ([], part, s)

/-! ### Values -/

mutual

/-- The value at the start of a text inside `depth` lists and tables, and the rest. -/
def readValue : Nat → Nat → List Char → Option (Value × List Char)
  | 0, _, _ => none
  | fuel + 1, depth, '[' :: s =>
    if depth < nestingLimit then readItems fuel (depth + 1) [] (skipLines s.length s) else none
  | fuel + 1, depth, '\x7b' :: s =>
    if depth < nestingLimit then
      match skipBlanks s with
      | '\x7d' :: s => some (.table [], s)
      | s => readPairs fuel (depth + 1) [] s
    else none
  | _ + 1, _, s => readScalar s

/-- The list whose first items are `before`, last first, and the rest. -/
def readItems : Nat → Nat → List Value → List Char → Option (Value × List Char)
  | 0, _, _, _ => none
  | _ + 1, _, before, ']' :: s => some (.list before.reverse, s)
  | fuel + 1, depth, before, s => do
    let (v, s) ← readValue fuel depth s
    match skipLines s.length s with
    | ',' :: s => readItems fuel depth (v :: before) (skipLines s.length s)
    | ']' :: s => return (.list (v :: before).reverse, s)
    | _ => none

/-- The table on one line with the entries `before` and more, and the rest. -/
def readPairs : Nat → Nat → Items → List Char → Option (Value × List Char)
  | 0, _, _, _ => none
  | fuel + 1, depth, before, s => do
    let (path, key, s) ← readKey nestingLimit s
    match s with
    | '=' :: s =>
      let (v, s) ← readValue fuel depth (skipBlanks s)
      let items ← before.define path key v .header
      match skipBlanks s with
      | ',' :: s => readPairs fuel depth items s
      | '\x7d' :: s => return (.table (Items.toEntries items), s)
      | _ => none
    | _ => none

end

/-! ### Documents -/

/-- What has been read of a document: everything that stands in it, and the path to the table that
keys belong to. -/
structure Draft where
  items : Items
  path : List String

/-- Reads the header of a table. -/
def readHeader (draft : Draft) (s : List Char) : Option (Draft × List Char) := do
  let (path, key, s) ← readKey nestingLimit s
  match s with
  | ']' :: s => return (⟨← draft.items.openTable path key, path ++ [key]⟩, s)
  | _ => none

/-- Reads the header of a list of tables. -/
def readListedHeader (draft : Draft) (s : List Char) : Option (Draft × List Char) := do
  let (path, key, s) ← readKey nestingLimit s
  match s with
  | ']' :: ']' :: s => return (⟨← draft.items.openListed path key, path ++ [key]⟩, s)
  | _ => none

/-- Reads a value under a key. -/
def readEntry (draft : Draft) (s : List Char) : Option (Draft × List Char) := do
  let (path, key, s) ← readKey nestingLimit s
  match s with
  | '=' :: s =>
    let (v, s) ← readValue (s.length + 1) 0 (skipBlanks s)
    let items ← Items.update .implied (fun here items => items.define path key v here)
      draft.path .header draft.items
    return ({ draft with items := items }, s)
  | _ => none

/-- Reads one expression. -/
def readExpression (draft : Draft) : List Char → Option (Draft × List Char)
  | '[' :: '[' :: s => readListedHeader draft s
  | '[' :: s => readHeader draft s
  | s => readEntry draft s

/-- Reads all expressions. -/
def readDocument : Nat → Draft → List Char → Option Items
  | 0, _, _ => none
  | fuel + 1, draft, s =>
    match skipLines s.length s with
    | [] => some draft.items
    | s => do
      let (draft, s) ← readExpression draft s
      readDocument fuel draft (← nextLine? s)

/-- A text without the byte order mark at its start, if there is one there. -/
def skipByteOrderMark : List Char → List Char
  | '\uFEFF' :: s => s
  | s => s

/-- The entries of the table that a document describes. -/
def parse (s : List Char) : Option (List (String × Value)) :=
  (readDocument (s.length + 1) ⟨[], []⟩ (skipByteOrderMark s)).map Items.toEntries

end Phrasebook.Toml
