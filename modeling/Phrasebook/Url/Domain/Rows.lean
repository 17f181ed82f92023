import Phrasebook.Text.Decimal
import Phrasebook.Text.Split

/-!
## Rows of character tables

A table about characters is written as rows with spaces between them.  A row names code points in
hexadecimal: one, or all from one up to another (`A-B`), or every second of these (`A/B`).  Behind
an equals sign it may give values for them, with dots between them.

* `Row.readAll` reads a table.
* `Row.find?` gives the row of a code point, and `Row.anyHas` tells whether there is one.
-/

namespace Phrasebook.Url.Domain

open Phrasebook.Text

/-- What a table says about some code points. -/
structure Row where
  first : Nat
  last : Nat
  /-- The distance from one of the code points to the next. -/
  stride : Nat
  values : List Nat

namespace Row

/-- The number of hexadecimal digits. -/
def number (s : List Char) : Nat :=
  (hexNumber? s).getD 0

/-- The code points that are named in front of the equals sign. -/
def ofPlaces (s : List Char) (values : List Nat) : Row :=
  match cut? '-' s, cut? '/' s with
  | some (first, last), _ => ⟨number first, number last, 1, values⟩
  | none, some (first, last) => ⟨number first, number last, 2, values⟩
  | none, none => ⟨number s, number s, 1, values⟩

/-- Reads a row. -/
def read (s : List Char) : Row :=
  match cut? '=' s with
  | some (places, values) => ofPlaces places ((splitAt '.' values).map number)
  | none => ofPlaces s []

/-- Reads the lines of a table. -/
def readAll (lines : List String) : List Row :=
  lines.flatMap fun line => (splitAt ' ' line.toList).map read

/-- Whether a row is about a code point. -/
def has (n : Nat) (r : Row) : Bool :=
  r.first ≤ n && n ≤ r.last && (n - r.first) % r.stride = 0

/-- The row about a code point, if there is one. -/
def find? (rows : List Row) (n : Nat) : Option Row :=
  List.find? (has n) rows

/-- Whether there is a row about a character. -/
def anyHas (rows : List Row) (c : Char) : Bool :=
  rows.any (has c.toNat)

end Row

end Phrasebook.Url.Domain
