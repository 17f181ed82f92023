import Phrasebook.Text.Decimal

/-!
## Documents

What a configuration or catalog file says, whatever notation it is written in: texts, numbers,
truth values and nothing at all, in lists and in tables.  A table keeps its entries in written
order and with repeated keys, since the reader of a document decides what repetition means.

* `Document.depth` counts how deep lists and tables are nested.
* `Numeral` is a number as it is written, exact and with its notation.
-/

namespace Phrasebook

/-- A number in decimal notation: `mantissa · 10 ^ exponent`, possibly with a minus sign. -/
structure Numeral where
  /-- Whether it has a minus sign. -/
  negative : Bool
  /-- All its digits, as a number. -/
  mantissa : Nat
  /-- The weight of the last digit. -/
  exponent : Int
  /-- Whether it is written without a point and without an exponent. -/
  whole : Bool
  deriving DecidableEq, Repr

namespace Numeral

/-- The numeral of a natural number. -/
def ofNat (n : Nat) : Numeral :=
  ⟨false, n, 0, true⟩

/-- The numeral of an integer. -/
def ofInt (n : Int) : Numeral :=
  ⟨n < 0, n.natAbs, 0, true⟩

/-- The natural number that is written, if it is one without a sign. -/
def natural? (n : Numeral) : Option Nat :=
  if n.whole && !n.negative then some n.mantissa else none

/-- The integer that is written, if it is one. -/
def integer? (n : Numeral) : Option Int :=
  if n.whole then some (if n.negative then -n.mantissa else n.mantissa) else none

/-- The least number that rounds to no finite double, half-way between the greatest double and the
next power of two. -/
def tooGreat : Nat :=
  Nat.pow 2 1024 - Nat.pow 2 970

/-- Whether the number rounds to no finite double. -/
def exceedsDouble (n : Numeral) : Bool :=
  if n.mantissa = 0 then false
  else if 0 ≤ n.exponent then
    310 < n.exponent || tooGreat ≤ n.mantissa * Nat.pow 10 n.exponent.toNat
  else tooGreat ≤ n.mantissa / Nat.pow 10 (min n.exponent.natAbs 100000)

/-- A number without its last digits, so that it fits a word of 64 bits, with the number of digits
that are left out. -/
def leading (mantissa : Nat) : Nat × Nat :=
  if mantissa < 18446744073709551616 then (mantissa, 0)
  else
    let (head, left) := leading (mantissa / 10)
    (head, left + 1)

/-- Whether the number is refused as too great by a reader that takes the leading digits, as many as
fit a word of 64 bits, as one double and multiplies it by the power of ten as another.  Close to the
greatest double this is not the same as rounding the number itself. -/
def overflows (n : Numeral) : Bool :=
  let (head, left) := leading n.mantissa
  let exponent := n.exponent + left
  if head = 0 || exponent < 289 then false
  else 308 < exponent ||
    (Float.ofNat head * Float.ofScientific 1 false exponent.toNat).isInf

/-- The double nearest to the number. -/
def toFloat (n : Numeral) : Float :=
  let magnitude := (Text.decimal n.mantissa).length + n.exponent
  let size :=
    if n.mantissa = 0 || magnitude < -400 then 0
    else if 400 < magnitude then Float.ofScientific 1 false 400
    else Float.ofScientific n.mantissa (n.exponent < 0) n.exponent.natAbs
  if n.negative then -size else size

end Numeral

/-- The content of a document. -/
inductive Document where
  /-- No value. -/
  | null
  /-- A truth value. -/
  | bool (b : Bool)
  /-- A number. -/
  | number (n : Numeral)
  /-- A text. -/
  | text (s : String)
  /-- Values in order. -/
  | list (items : List Document)
  /-- Values under keys in order; a key may be repeated. -/
  | table (entries : List (String × Document))
  /-- What is well formed but stands for nothing: a string that is no text, since it has one half of
  a surrogate pair, or a table with such a key. -/
  | unreadable

namespace Document

mutual

/-- How many lists and tables stand around the innermost value. -/
def depth : Document → Nat
  | .list items => 1 + depthOfItems items
  | .table entries => 1 + depthOfEntries entries
  | _ => 0

/-- The depth of the deepest item. -/
def depthOfItems : List Document → Nat
  | [] => 0
  | d :: rest => max (depth d) (depthOfItems rest)

/-- The depth of the deepest value. -/
def depthOfEntries : List (String × Document) → Nat
  | [] => 0
  | (_, d) :: rest => max (depth d) (depthOfEntries rest)

end

mutual

/-- Whether everything in it can be read: each text is one, and each number fits a double. -/
def isReadable : Document → Bool
  | .number n => !n.overflows
  | .list items => areReadableItems items
  | .table entries => areReadableEntries entries
  | .unreadable => false
  | _ => true

/-- Whether everything in the items can be read. -/
def areReadableItems : List Document → Bool
  | [] => true
  | d :: rest => isReadable d && areReadableItems rest

/-- Whether everything in the values can be read. -/
def areReadableEntries : List (String × Document) → Bool
  | [] => true
  | (_, d) :: rest => isReadable d && areReadableEntries rest

end

/-- The values under a key, in order. -/
def valuesAt (key : String) (entries : List (String × Document)) : List Document :=
  (entries.filter fun entry => entry.1 = key).map Prod.snd

end Document

end Phrasebook
