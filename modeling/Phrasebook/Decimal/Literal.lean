import Phrasebook.Document

/-!
## Decimal literals

A number can be written with a sign, with a point that has digits on at least one side, and with an
exponent.

* `Decimal.literal?` reads such a number exactly.
* `Decimal.float?` reads it as the nearest double, and knows the words for infinity and for no
  number.
-/

namespace Phrasebook.Decimal

open Phrasebook.Text

/-- A text without the sign at its start, and whether that is a minus sign. -/
def cutSign : List Char → Bool × List Char
  | '-' :: s => (true, s)
  | '+' :: s => (false, s)
  | s => (false, s)

/-- The digits before and behind the point of a number. -/
def base? (s : List Char) : Option (List Char × List Char) :=
  let whole := s.takeWhile isDigit
  match s.dropWhile isDigit with
  | [] => if whole.isEmpty then none else some (whole, [])
  | '.' :: fraction =>
    if fraction.all isDigit && !(whole.isEmpty && fraction.isEmpty) then some (whole, fraction)
    else none
  | _ => none

/-- The exponent of a number, from what stands behind the letter for it. -/
def exponent? (s : List Char) : Option Int :=
  let (negative, digits) := cutSign s
  if digits.isEmpty || !digits.all isDigit then none
  else
    let size : Int := digitsValue digits
    some (if negative then -size else size)

/-- The number that a text writes. -/
def literal? (s : List Char) : Option Numeral := do
  let (negative, s) := cutSign s
  let (base, rest) := s.span fun c => c != 'e' && c != 'E'
  let (whole, fraction) ← base? base
  let exponent ← if rest.isEmpty then some 0 else exponent? (rest.drop 1)
  return ⟨negative, digitsValue (whole ++ fraction), exponent - fraction.length, false⟩

/-- The double that a text writes.  The case of words does not matter. -/
def float? (s : List Char) : Option Float :=
  let (negative, word) := cutSign s
  let signed (x : Float) : Float := if negative then -x else x
  let word := String.ofList (word.map Char.toLower)
  if word = "inf" || word = "infinity" then some (signed (1 / 0))
  else if word = "nan" then some (0 / 0)
  else (literal? s).map Numeral.toFloat

end Phrasebook.Decimal
