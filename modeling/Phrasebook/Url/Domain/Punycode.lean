import Phrasebook.Text.Decimal
import Phrasebook.Text.Split

/-!
## Labels in ASCII

A label with characters beyond ASCII is written in ASCII: first its ASCII characters, then a hyphen
if there are any, and then the other characters in the order of their code points.  For each of them
there is a number that says how far it is, counted over all places and code points, from the one
before.  A number is written with digits of base 36 whose weights adapt to the numbers so far.

* `encode` writes a label, and `decode?` reads it.  Reading gives up when a number does not fit into
  32 bits.
-/

namespace Phrasebook.Url.Domain.Punycode

open Phrasebook.Text

/-- The digit for a value below 36. -/
def digit (d : Nat) : Char :=
  if d < 26 then Char.ofNat ('a'.toNat + d) else digitChar (d - 26)

/-- The value of a digit. -/
def value? (c : Char) : Option Nat :=
  if 'a' ≤ c && c ≤ 'z' then some (c.toNat - 'a'.toNat)
  else if isDigit c then some (digitValue c + 26)
  else none

/-- The value from which on a digit is not the last of its number.  The first digit has `k = 36`,
the next `72`, and so on. -/
def threshold (bias k : Nat) : Nat :=
  min 26 (max 1 (k - bias))

/-- The bias at the start. -/
def firstBias : Nat :=
  72

/-- How often a number can be divided by 35 until it is at most 455, and what is left. -/
def shrink (n : Nat) : Nat × Nat :=
  if 455 < n then
    let (times, rest) := shrink (n / 35)
    (times + 1, rest)
  else (0, n)

/-- The bias after a number, when a label with `count` characters has been written so far. -/
def adapt (n count : Nat) (first : Bool) : Nat :=
  let n := if first then n / 700 else n / 2
  let (times, rest) := shrink (n + n / count)
  36 * times + 36 * rest / (rest + 38)

theorem one_le_threshold (bias k : Nat) : 1 ≤ threshold bias k := by
  unfold threshold
  omega

/-! ### Writing -/

/-- The digits of a number. -/
def writeNumber (bias k n : Nat) : List Char :=
  let t := threshold bias k
  if n < t then [digit n]
  else digit (t + (n - t) % (36 - t)) :: writeNumber bias (k + 36) ((n - t) / (36 - t))
termination_by n
decreasing_by
  have := one_le_threshold bias k
  exact Nat.lt_of_le_of_lt (Nat.div_le_self _ _) (by omega)

/-- A label that is being written: the digits so far, the distance from the last character, the
bias, and how many characters are written. -/
structure Writing where
  digits : List Char
  distance : Nat
  bias : Nat
  count : Nat

/-- Goes over one place of the label in search of the code point `n`. -/
def Writing.pass (basic n : Nat) (w : Writing) (c : Char) : Writing :=
  if c.toNat < n then { w with distance := w.distance + 1 }
  else if c.toNat = n then
    ⟨w.digits ++ writeNumber w.bias 36 w.distance, 0,
      adapt w.distance (w.count + 1) (w.count = basic), w.count + 1⟩
  else w

/-- Goes over the label for each of some code points, which are in order and are at least `start`.
-/
def Writing.passAll (s : List Char) (basic : Nat) : List Nat → Nat → Writing → Writing
  | [], _, w => w
  | n :: rest, start, w =>
    let w := { w with distance := w.distance + (n - start) * (w.count + 1) }
    let w := s.foldl (Writing.pass basic n) w
    passAll s basic rest (n + 1) { w with distance := w.distance + 1 }

/-- A number in a list of numbers in order, unless it is there already. -/
def insert (n : Nat) : List Nat → List Nat
  | [] => [n]
  | m :: rest => if n < m then n :: m :: rest else if n = m then m :: rest else m :: insert n rest

/-- A label in ASCII. -/
def encode (s : List Char) : List Char :=
  let basic := s.filter fun c => c.toNat < 0x80
  let others := (s.filter fun c => 0x80 ≤ c.toNat).foldl (fun acc c => insert c.toNat acc) []
  let count := basic.length
  let w := Writing.passAll s count others 0x80 ⟨[], 0, firstBias, count⟩
  (if basic.isEmpty then [] else basic ++ ['-']) ++ w.digits

/-! ### Reading -/

/-- A label that is being read: its characters so far, the place and the code point of the last one
that was put in, the bias, and the number that is being read, with the weight and the threshold
place of its next digit. -/
structure Reading where
  chars : List Char
  place : Nat
  code : Nat
  bias : Nat
  number : Nat
  weight : Nat
  k : Nat

/-- A character at a place of a text. -/
def putAt (c : Char) : Nat → List Char → List Char
  | 0, s => c :: s
  | _ + 1, [] => [c]
  | i + 1, d :: s => d :: putAt c i s

/-- A number has been read. -/
def Reading.finish? (first : Bool) (r : Reading) : Option Reading :=
  let count := r.chars.length + 1
  let place := r.place + r.number
  let code := r.code + place / count
  if 0x110000 ≤ code || (0xD800 ≤ code && code < 0xE000) then none
  else some ⟨putAt (Char.ofNat code) (place % count) r.chars, place % count + 1, code,
    adapt r.number count first, 0, 1, 36⟩

/-- Places and weights are below this bound, or the label is not read. -/
def numberBound : Nat :=
  0x100000000

/-- Reads digits to the end. -/
def Reading.run (first : Bool) (r : Reading) : List Char → Option (List Char)
  | [] => if r.weight = 1 then some r.chars else none
  | c :: rest =>
    match value? c with
    | none => none
    | some d =>
      let t := threshold r.bias r.k
      let number := r.number + d * r.weight
      let weight := r.weight * (36 - t)
      if numberBound ≤ r.place + number then none
      else if d < t then
        match ({ r with number := number } : Reading).finish? first with
        | some r => r.run false rest
        | none => none
      else if numberBound ≤ weight then none
      else ({ r with number := number, weight := weight, k := r.k + 36 } : Reading).run first rest

/-- The label that is written in ASCII, if it has characters beyond ASCII. -/
def decode? (s : List Char) : Option (List Char) :=
  let read (basic digits : List Char) : Option (List Char) :=
    if digits.isEmpty then none
    else Reading.run true ⟨basic, 0, 0x80, firstBias, 0, 1, 36⟩ digits
  match cutLast? '-' s with
  | none => read [] s
  -- There is no hyphen without ASCII characters in front of it.
  | some ([], _) => none
  | some (basic, digits) => read basic digits

end Phrasebook.Url.Domain.Punycode
