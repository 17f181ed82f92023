import Phrasebook.Entries
import Phrasebook.Toml.DateTime

/-!
## The values of TOML

TOML writes one table over many lines, so a table grows while a document is read: by headers such as
`[a.b]`, by headers of lists of tables such as `[[a.b]]`, and by dotted keys such as `a.b = 1`.
Which of them may touch a table again depends on how the table came to be.

* `Items.define` writes a value under a dotted key.
* `Items.openTable` and `Items.openListed` do what a header does.
* `Items.toEntries` forgets how the tables came to be.
-/

namespace Phrasebook.Toml

/-- A value of TOML. -/
inductive Value where
  | text (s : String)
  | integer (n : Int)
  | bool (b : Bool)
  /-- A number that is not written as an integer.  No configuration asks how great it is. -/
  | float
  | dateTime (t : DateTime)
  | list (items : List Value)
  | table (entries : List (String × Value))

/-- How a table came to be. -/
inductive Origin where
  /-- It has a header of its own. -/
  | header
  /-- The header of a table inside it names it. -/
  | implied
  /-- A dotted key names it. -/
  | dotted
  deriving DecidableEq, Repr

/-- What stands under a key while a document is read. -/
inductive Item where
  | value (v : Value)
  | table (origin : Origin) (items : List (String × Item))
  /-- A list of tables that have headers; the last of them can still grow. -/
  | listed (before : List (List (String × Item))) (last : List (String × Item))

/-- What stands in a table while a document is read. -/
abbrev Items := Entries Item

namespace Items

/-- Changes the table at the end of a path.  A table that is missing on the way is made, and
`origin` is how it then came to be.  A dotted key does not pass through a table with a header of its
own. -/
def update (origin : Origin) (change : Origin → Items → Option Items) :
    List String → Origin → Items → Option Items
  | [], here, items => change here items
  | key :: path, _, items =>
    match items.find? key with
    | none => (update origin change path origin []).map fun inner =>
        items.put key (.table origin inner)
    | some (.table here inner) =>
      if origin = .dotted && here = .header then none
      else (update origin change path here inner).map fun inner => items.put key (.table here inner)
    | some (.listed before last) =>
      (update origin change path .header last).map fun last => items.put key (.listed before last)
    | some (.value _) => none

/-- Writes a value under a dotted key, in a table that came to be as `here` says.  The key must be
new, and the tables on the way to it must be the work of dotted keys. -/
def define (path : List String) (key : String) (v : Value) (here : Origin) (items : Items) :
    Option Items :=
  update .dotted (fun origin inner =>
    if !path.isEmpty && origin ≠ .dotted then none
    else if (inner.find? key).isSome then none
    else some (inner.put key (.value v))) path here items

/-- Opens a table with a header of its own.  A table that other headers have implied goes to the
end; any other must not be there yet. -/
def openTable (path : List String) (key : String) (items : Items) : Option Items :=
  update .implied (fun _ inner =>
    match inner.find? key with
    | none => some (inner.put key (.table .header []))
    | some (.table .implied old) => some (Entries.put key (.table .header old) (inner.erase key))
    | some _ => none) path .header items

/-- Opens one more table of a list of tables. -/
def openListed (path : List String) (key : String) (items : Items) : Option Items :=
  update .implied (fun _ inner =>
    match inner.find? key with
    | none => some (inner.put key (.listed [] []))
    | some (.listed before last) => some (inner.put key (.listed (before ++ [last]) []))
    | some _ => none) path .header items

mutual

/-- The finished value of an item. -/
def valueOf : Item → Value
  | .value v => v
  | .table _ items => .table (toEntries items)
  | .listed before last => .list (tablesOf before ++ [.table (toEntries last)])

/-- The finished entries of a table. -/
def toEntries : List (String × Item) → List (String × Value)
  | [] => []
  | (key, item) :: rest => (key, valueOf item) :: toEntries rest

/-- The finished tables of a list of tables. -/
def tablesOf : List (List (String × Item)) → List Value
  | [] => []
  | items :: rest => .table (toEntries items) :: tablesOf rest

end

end Items

end Phrasebook.Toml
