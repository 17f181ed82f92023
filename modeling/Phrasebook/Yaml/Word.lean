import Phrasebook.Decimal.Literal

/-!
## The words of YAML

What a scalar without quotes is depends on what is asked for: it can be taken as the text that
stands there, and it may also be a word for no value, a truth value, or a number.

* `Word.isText` holds of the words that have no other meaning than the text itself.
-/

namespace Phrasebook.Yaml.Word

open Phrasebook.Text

/-- Whether a word stands for no value. -/
def isNull (word : String) : Bool :=
  word = "~" || word = "null" || word = "Null" || word = "NULL"

/-- The truth value that a word stands for. -/
def bool? (word : String) : Option Bool :=
  if word = "true" || word = "True" || word = "TRUE" then some true
  else if word = "false" || word = "False" || word = "FALSE" then some false
  else none

/-! ### Integers -/

/-- The number of a run of digits that has at least one. -/
def inBase? (base : Nat) (digits : List Char) : Option Nat :=
  if digits.isEmpty then none
  else digits.foldl (fun n c => do
    let d ← hexValue? c
    if d < base then return base * (← n) + d else none) (some 0)

/-- The number that is written without a sign.  A decimal number has no leading zeros. -/
def magnitude? (s : List Char) : Option Nat :=
  match s with
  | '0' :: 'x' :: digits => inBase? 16 digits
  | '0' :: 'o' :: digits => inBase? 8 digits
  | '0' :: 'b' :: digits => inBase? 2 digits
  | '0' :: _ :: _ => none
  | digits => inBase? 10 digits

/-- The natural number that a word stands for. -/
def natural? (word : String) : Option Nat :=
  match word.toList with
  | '+' :: digits => magnitude? digits
  | digits => magnitude? digits

/-- The natural number of 64 bits that a word stands for. -/
def natural64? (word : String) : Option Nat :=
  (natural? word).filter (· < UInt64.size)

/-- Whether a word stands for an integer of at most 128 bits, of which a negative one uses one for
its sign. -/
def isInteger (word : String) : Bool :=
  let (negative, digits) := Decimal.cutSign word.toList
  (magnitude? digits).any fun n =>
    if negative then n ≤ 0x80000000000000000000000000000000
    else n < 0x100000000000000000000000000000000

/-! ### Other numbers -/

/-- Whether a word stands for a floating-point number.  A finite one must not round to infinity. -/
def isFloat (word : String) : Bool :=
  let size := (Decimal.cutSign word.toList).2
  size = ".inf".toList || size = ".Inf".toList || size = ".INF".toList ||
    word = ".nan" || word = ".NaN" || word = ".NAN" ||
    (Decimal.literal? word.toList).any fun n => !n.exceedsDouble

/-- Whether a word consists of digits that begin with a superfluous zero. -/
def isZeroPadded (word : String) : Bool :=
  match (Decimal.cutSign word.toList).2 with
  | '0' :: d :: digits => (d :: digits).all isDigit
  | _ => false

/-- Whether a word stands for nothing but the text itself. -/
def isText (word : String) : Bool :=
  word ≠ "" && !isNull word && (bool? word).isNone && !isInteger word &&
    (isZeroPadded word || !isFloat word)

end Phrasebook.Yaml.Word
