import Phrasebook.Text.Decimal
import Phrasebook.Text.Utf8

/-!
## Percent encoding

A byte is written as a percent sign and two hexadecimal digits.  Each part of a URL has its own set
of ASCII characters that have to be written so; characters outside ASCII always are.

* `encodeWith` encodes a text by a set, and `decodeBytes` reads the bytes back.  A percent sign that
  is not followed by two digits stands for itself.
-/

namespace Phrasebook.Url

open Phrasebook.Text

/-- A byte behind a percent sign. -/
def percentByte (b : UInt8) : List Char :=
  ['%', upperHexChar (b.toNat / 16), upperHexChar (b.toNat % 16)]

/-- The text with every character of the set `p`, and every one outside ASCII, encoded. -/
def encodeWith (p : Char → Bool) (s : List Char) : List Char :=
  s.flatMap fun c =>
    if p c || 0x80 ≤ c.toNat then (String.utf8EncodeChar c).flatMap percentByte else [c]

/-- The bytes of a text with percent signs. -/
def decodeBytes : List Char → List UInt8
  | [] => []
  | '%' :: a :: b :: rest =>
    match hexValue? a, hexValue? b with
    | some x, some y => UInt8.ofNat (16 * x + y) :: decodeBytes rest
    | _, _ => 0x25 :: decodeBytes (a :: b :: rest)
  | c :: rest => String.utf8EncodeChar c ++ decodeBytes rest

/-! ### The sets -/

/-- The control characters of ASCII. -/
def isControl (c : Char) : Bool :=
  c.toNat < 0x20 || c.toNat == 0x7F

/-- The characters that are encoded in a fragment. -/
def fragmentSet (c : Char) : Bool :=
  isControl c || c == ' ' || c == '"' || c == '<' || c == '>' || c.toNat == 0x60

/-- The characters that are encoded in a path. -/
def pathSet (c : Char) : Bool :=
  fragmentSet c || c == '#' || c == '?' || c == '{' || c == '}'

/-- The characters that are encoded in a user name or password. -/
def userinfoSet (c : Char) : Bool :=
  pathSet c || c == '/' || c == ':' || c == ';' || c == '=' || c == '@' || c == '[' || c == '\\' ||
    c == ']' || c == '^' || c == '|'

/-- The characters that are encoded in a query. -/
def querySet (c : Char) : Bool :=
  isControl c || c == ' ' || c == '"' || c == '#' || c == '<' || c == '>'

/-- The characters that are encoded in the query of a URL with a special scheme. -/
def specialQuerySet (c : Char) : Bool :=
  querySet c || c.toNat == 0x27

end Phrasebook.Url
