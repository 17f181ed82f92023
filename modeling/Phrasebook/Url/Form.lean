import Phrasebook.Text.Split
import Phrasebook.Url.Percent

/-!
## Form queries

A query in the form `application/x-www-form-urlencoded` is a list of pairs of names and values.
Pairs stand between ampersands, and a name is set off from its value by the first equals sign; a
plus sign is a space, and everything else is percent encoding of UTF-8.

* `Form.parse` reads any query.  Empty pairs vanish, a pair without an equals sign has an empty
  value, and bytes that are no UTF-8 are read as U+FFFD.
* `Form.render` writes pairs.  It leaves ASCII letters, digits and the signs `*-._` as they are.
-/

namespace Phrasebook.Url.Form

open Phrasebook.Text

/-- The text that an encoded name or value stands for. -/
def decodeComponent (s : List Char) : List Char :=
  Utf8.decodeLossy (decodeBytes (s.map fun c => if c == '+' then ' ' else c))

/-- The pair that is written between two ampersands. -/
def decodePair (s : List Char) : String × String :=
  match cut? '=' s with
  | some (name, value) =>
    (String.ofList (decodeComponent name), String.ofList (decodeComponent value))
  | none => (String.ofList (decodeComponent s), "")

/-- The pairs of a query. -/
def parse (query : List Char) : List (String × String) :=
  ((splitAt '&' query).filter fun piece => !piece.isEmpty).map decodePair

/-- Whether a byte is written as it is. -/
def isPlainByte (b : UInt8) : Bool :=
  let n := b.toNat
  (0x30 ≤ n && n ≤ 0x39) || (0x41 ≤ n && n ≤ 0x5A) || (0x61 ≤ n && n ≤ 0x7A) || n == 0x2A ||
    n == 0x2D || n == 0x2E || n == 0x5F

/-- A byte of a name or value as it is written. -/
def encodeByte (b : UInt8) : List Char :=
  if isPlainByte b then [Char.ofNat b.toNat]
  else if b.toNat = 0x20 then ['+']
  else percentByte b

/-- A name or value as it is written. -/
def encodeComponent (s : List Char) : List Char :=
  (Utf8.encode s).flatMap encodeByte

/-- A pair as it is written. -/
def encodePair (pair : String × String) : List Char :=
  encodeComponent pair.1.toList ++ '=' :: encodeComponent pair.2.toList

/-- The query of pairs. -/
def render (pairs : List (String × String)) : List Char :=
  joinWith ['&'] (pairs.map encodePair)

end Phrasebook.Url.Form
