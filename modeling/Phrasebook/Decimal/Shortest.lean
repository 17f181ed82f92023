import Phrasebook.Text.Decimal

/-!
## The shortest decimal of a binary fraction

A finite double stands for the reals that round to it, an interval around `m · 2 ^ q`.  Its shortest
decimal is the decimal in that interval with the fewest digits, and among those the nearest to the
number.

* `Binary.interval` gives the interval.
* `Binary.shortest` searches the decimals with one digit, two digits, and so on: of the decimals
  with `n` digits only the two neighbours of the number can be the nearest.
* `positional` writes a decimal without an exponent.
-/

namespace Phrasebook.Decimal

open Phrasebook.Text

/-- The number `mantissa · 2 ^ exponent`, as a double of 64 bits holds it. -/
structure Binary where
  /-- The significant bits. -/
  mantissa : Nat
  /-- The weight of the last bit. -/
  exponent : Int
  deriving DecidableEq, Repr

/-- The number `digits · 10 ^ exponent`. -/
structure Scaled where
  /-- The significant digits, as a number. -/
  digits : Nat
  /-- The weight of the last digit. -/
  exponent : Int
  deriving DecidableEq, Repr

/-- The least exponent of a double. -/
def leastExponent : Int :=
  -1074

/-- The mantissa of a power of two, the least that a double with all its bits can have. -/
def leastMantissa : Nat :=
  Nat.pow 2 52

/-- The factors by which a power of `base` enters a numerator and a denominator. -/
def scale (base : Nat) (exponent : Int) : Nat × Nat :=
  (base.pow exponent.toNat, base.pow (-exponent).toNat)

/-- The reals that round to a number, as numerators over one denominator. -/
structure Interval where
  /-- The lower end. -/
  low : Nat
  /-- The number itself. -/
  value : Nat
  /-- The upper end. -/
  high : Nat
  /-- The common denominator. -/
  denominator : Nat
  /-- Whether the ends belong to the interval. -/
  closed : Bool

/-- The interval around a double.  The ends are half-way to the neighbours, and the lower
neighbour of a power of two is at half the distance.  They belong to it if the last bit is zero. -/
def Binary.interval (b : Binary) : Interval :=
  -- In units of a quarter of the last bit, the distance to a half-way point is 2, or 1.
  let (up, down) := scale 2 b.exponent
  let below := if b.mantissa = leastMantissa ∧ leastExponent < b.exponent then 1 else 2
  { low := (4 * b.mantissa - below) * up
    value := 4 * b.mantissa * up
    high := (4 * b.mantissa + 2) * up
    denominator := 4 * down
    closed := b.mantissa % 2 = 0 }

/-- Whether a decimal lies in an interval. -/
def Interval.has (i : Interval) (d : Scaled) : Bool :=
  let (up, down) := scale 10 d.exponent
  let x := d.digits * up * i.denominator
  if i.closed then i.low * down ≤ x ∧ x ≤ i.high * down
  else i.low * down < x ∧ x < i.high * down

/-- The least `k` for which the number is below `10 ^ k`, searched from `start` upwards. -/
def Interval.magnitude (i : Interval) (start : Int) : Nat → Int
  | 0 => start
  | fuel + 1 =>
    let (up, down) := scale 10 start
    if i.value * down < up * i.denominator then start else i.magnitude (start + 1) fuel

/-- The decimal of the grid with weight `10 ^ exponent` that is in the interval and nearest to the
number; the greater one if two are at the same distance. -/
def Interval.onGrid (i : Interval) (exponent : Int) : Option Scaled :=
  let (up, down) := scale 10 exponent
  let unit := up * i.denominator
  let digits := i.value * down / unit
  let rest := i.value * down % unit
  let lower : Scaled := ⟨digits, exponent⟩
  let upper : Scaled := ⟨digits + 1, exponent⟩
  match i.has lower, i.has upper with
  -- Both neighbours may be in the interval when the grid is fine enough.
  | true, true => if 2 * rest < unit then some lower else some upper
  | true, false => some lower
  | false, true => some upper
  | false, false => none

/-- The decimal with the fewest digits that reads back as this number.  Seventeen digits are always
enough. -/
def Binary.shortest (b : Binary) : Scaled :=
  let i := b.interval
  -- All doubles are between `10 ^ (-330)` and `10 ^ 320`.
  let magnitude := i.magnitude (-330) 650
  match (List.range 17).findSome? fun (n : Nat) => i.onGrid (magnitude - 1 - n) with
  | some d => d
  | none => ⟨0, 0⟩

/-- The digits of a decimal with a point where it has one, and no exponent. -/
def positional (d : Scaled) : List Char :=
  let digits := decimal d.digits
  if 0 ≤ d.exponent then digits ++ List.replicate d.exponent.toNat '0'
  else
    let places := (-d.exponent).toNat
    -- Zeros in front make sure that at least one digit stands before the point.
    let padded := List.replicate (places + 1 - digits.length) '0' ++ digits
    let whole := padded.take (padded.length - places)
    let fraction := ((padded.drop (padded.length - places)).reverse.dropWhile (· == '0')).reverse
    if fraction.isEmpty then whole else whole ++ '.' :: fraction

/-- A double in positional notation: the shortest decimal that reads back, with no point if it is
whole. -/
def ofFloat (x : Float) : String :=
  let bits := x.toBits.toNat
  let sign := if Nat.pow 2 63 ≤ bits then "-" else ""
  let field : Nat := bits / leastMantissa % Nat.pow 2 11
  let fraction := bits % leastMantissa
  if field = 2047 then (if fraction = 0 then sign ++ "inf" else "NaN")
  else if field = 0 ∧ fraction = 0 then sign ++ "0"
  else
    let b : Binary :=
      if field = 0 then ⟨fraction, leastExponent⟩
      else ⟨leastMantissa + fraction, (field : Int) - 1075⟩
    sign ++ String.ofList (positional b.shortest)

end Phrasebook.Decimal
