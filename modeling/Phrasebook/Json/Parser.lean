import Phrasebook.Json.Token

/-!
## Reading JSON

The reader goes once over the tokens, with a stack of the lists and tables that are open.  It stops
behind the first value and leaves the tokens that follow; `parse` reports whether there are any, so
that what a value says can be judged before what comes after it.
-/

namespace Phrasebook.Json

/-- The entries of a table, last first.  A key is missing if it is no text. -/
abbrev Members := List (Option String × Document)

/-- The table of entries, if each of them has a key. -/
def tableOf (entries : Members) : Document :=
  match entries.reverse.mapM fun (key, value) => key.map fun key => (key, value) with
  | some entries => .table entries
  | none => .unreadable

/-- A list or table around the value that is being read, with what it holds so far, last first. -/
inductive Frame where
  | list (items : List Document)
  | table (entries : Members) (key : Option String)

/-- What the reader is at. -/
inductive Place where
  /-- Before a value. -/
  | value
  /-- Behind the bracket that opens a list. -/
  | firstItem
  /-- Behind the brace that opens a table. -/
  | firstKey
  /-- Behind the comma of a table with these entries, last first. -/
  | key (entries : Members)
  /-- Behind a key in a table with these entries, last first. -/
  | colon (entries : Members) (key : Option String)
  /-- Behind a value. -/
  | after (value : Document)

/-- The place behind the first token of a value, in the frames around it. -/
def startValue (frames : List Frame) : Token → Option (Place × List Frame)
  | .openBrace => some (.firstKey, frames)
  | .openBracket => some (.firstItem, frames)
  | .null => some (.after .null, frames)
  | .bool b => some (.after (.bool b), frames)
  | .number n => some (.after (.number n), frames)
  | .text s => some (.after (.text (String.ofList s)), frames)
  | .brokenText => some (.after .unreadable, frames)
  | _ => none

/-- The place behind one more token. -/
def step : Place → List Frame → Token → Option (Place × List Frame)
  | .value, frames, token => startValue frames token
  | .firstItem, frames, .closeBracket => some (.after (.list []), frames)
  | .firstItem, frames, token => startValue (.list [] :: frames) token
  | .firstKey, frames, .closeBrace => some (.after (.table []), frames)
  | .firstKey, frames, .text s => some (.colon [] (some (String.ofList s)), frames)
  | .firstKey, frames, .brokenText => some (.colon [] none, frames)
  | .key entries, frames, .text s => some (.colon entries (some (String.ofList s)), frames)
  | .key entries, frames, .brokenText => some (.colon entries none, frames)
  | .colon entries key, frames, .colon => some (.value, .table entries key :: frames)
  | .after value, .list items :: frames, .comma => some (.value, .list (value :: items) :: frames)
  | .after value, .list items :: frames, .closeBracket =>
    some (.after (.list (value :: items).reverse), frames)
  | .after value, .table entries key :: frames, .comma =>
    some (.key ((key, value) :: entries), frames)
  | .after value, .table entries key :: frames, .closeBrace =>
    some (.after (tableOf ((key, value) :: entries)), frames)
  | _, _, _ => none

/-- Reads on to the end of the value, and gives the value and the tokens behind it. -/
def run : Place → List Frame → List Token → Option (Document × List Token)
  | .after value, [], rest => some (value, rest)
  | _, _, [] => none
  | place, frames, token :: rest =>
    match step place frames token with
    | some (place, frames) => run place frames rest
    | none => none

/-- The first value of a text, and whether anything else follows it. -/
def parse (s : List Char) : Option (Document × Bool) :=
  (run .value [] (tokens s)).map fun (value, rest) => (value, !rest.isEmpty)

/-- The value of a text that has one value and nothing else. -/
def parseAll (s : List Char) : Option Document :=
  match parse s with
  | some (value, false) => some value
  | _ => none

end Phrasebook.Json
