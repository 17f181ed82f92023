import Phrasebook.Text.Decimal
import Phrasebook.Text.Split

/-!
## Dates and times

A moment is written as a date, as a time of day, or as both with a letter or a space between them.
Only where there are both can the distance from universal time follow.

* `DateTime.parse?` reads any of these forms.
* `DateTime.text` writes the canonical form: a capital letter between date and time, and no more
  digits of a fraction than it needs.
-/

namespace Phrasebook.Toml

open Phrasebook.Text

/-- A day of the calendar. -/
structure Date where
  year : Nat
  month : Nat
  day : Nat
  deriving DecidableEq, Repr

/-- A time of day; its second may be a leap second. -/
structure Time where
  hour : Nat
  minute : Nat
  second : Nat
  nanosecond : Nat
  deriving DecidableEq, Repr

/-- The distance from universal time. -/
inductive Offset where
  /-- None, with the letter for it. -/
  | universal
  /-- Minutes to the east. -/
  | minutes (n : Int)
  deriving DecidableEq, Repr

/-- A date, a time of day, or both. -/
inductive DateTime where
  | date (d : Date)
  | time (t : Time)
  | moment (d : Date) (t : Time) (offset : Option Offset)
  deriving DecidableEq, Repr

/-! ### Reading -/

/-- The number that a text of so many digits writes, if it lies in a range. -/
def field? (width low high : Nat) (s : List Char) : Option Nat :=
  if s.length = width && s.all isDigit then
    (some (digitsValue s)).filter fun n => low ≤ n && n ≤ high
  else none

namespace Date

/-- Whether a year has a 29th of February. -/
def isLeap (year : Nat) : Bool :=
  year % 4 = 0 && (year % 100 ≠ 0 || year % 400 = 0)

/-- How many days a month has. -/
def daysIn (year month : Nat) : Nat :=
  if month = 2 then (if isLeap year then 29 else 28)
  else if month = 4 || month = 6 || month = 9 || month = 11 then 30
  else 31

/-- The day that a text writes. -/
def parse? (s : List Char) : Option Date :=
  match splitAt '-' s with
  | [year, month, day] => do
    let year ← field? 4 0 9999 year
    let month ← field? 2 1 12 month
    return ⟨year, month, ← field? 2 1 (daysIn year month) day⟩
  | _ => none

end Date

namespace Time

/-- How many digits of a fraction are kept. -/
def fractionDigits : Nat :=
  9

/-- The nanoseconds of a fraction of a second; what is less than one is dropped. -/
def nanoseconds? (digits : List Char) : Option Nat :=
  if digits.isEmpty || !digits.all isDigit then none
  else some (digitsValue ((digits.take fractionDigits).rightpad fractionDigits '0'))

/-- The time of day that a text writes. -/
def parse? (s : List Char) : Option Time :=
  match splitAt ':' s with
  | [hour, minute, second] => do
    let (second, nanosecond) ← match cut? '.' second with
      | some (second, fraction) => do pure (second, ← nanoseconds? fraction)
      | none => pure (second, 0)
    return ⟨← field? 2 0 23 hour, ← field? 2 0 59 minute, ← field? 2 0 60 second, nanosecond⟩
  | _ => none

end Time

namespace Offset

/-- The minutes that hours and minutes without a sign make. -/
def size? (s : List Char) : Option Nat :=
  match splitAt ':' s with
  | [hour, minute] => do return 60 * (← field? 2 0 23 hour) + (← field? 2 0 59 minute)
  | _ => none

/-- A text without the offset at its end, and the offset if there is one. -/
def cut (s : List Char) : List Char × Option Offset :=
  let signed (sign : Char) (factor : Int) : Option (List Char × Option Offset) := do
    let (time, size) ← cutLast? sign s
    return (time, some (minutes (factor * (← size? size))))
  match s.getLast? with
  | some 'Z' | some 'z' => (s.dropLast, some universal)
  | _ => ((signed '+' 1).or (signed '-' (-1))).getD (s, none)

end Offset

namespace DateTime

/-- How many characters a date has. -/
def dateLength : Nat :=
  10

/-- The date, the time of day or both that a text writes. -/
def parse? (s : List Char) : Option DateTime :=
  match Date.parse? s, Time.parse? s with
  | some d, _ => some (date d)
  | none, some t => some (time t)
  | none, none =>
    match s.drop dateLength with
    | c :: rest =>
      if c == 'T' || c == 't' || c == ' ' then do
        let (clock, offset) := Offset.cut rest
        return moment (← Date.parse? (s.take dateLength)) (← Time.parse? clock) offset
      else none
    | [] => none

end DateTime

/-! ### Writing -/

/-- A number with at least so many digits. -/
def padded (width n : Nat) : List Char :=
  (decimal n).leftpad width '0'

/-- The text of a day. -/
def Date.text (d : Date) : List Char :=
  joinWith ['-'] [padded 4 d.year, padded 2 d.month, padded 2 d.day]

/-- The digits of a fraction without the zeros at its end. -/
def Time.fraction (t : Time) : List Char :=
  ((padded fractionDigits t.nanosecond).reverse.dropWhile (· == '0')).reverse

/-- The text of a time of day. -/
def Time.text (t : Time) : List Char :=
  joinWith [':'] [padded 2 t.hour, padded 2 t.minute, padded 2 t.second] ++
    (if t.nanosecond = 0 then [] else '.' :: t.fraction)

/-- The text of an offset. -/
def Offset.text : Offset → List Char
  | universal => ['Z']
  | minutes n =>
    (if n < 0 then '-' else '+') ::
      joinWith [':'] [padded 2 (n.natAbs / 60), padded 2 (n.natAbs % 60)]

/-- The canonical text. -/
def DateTime.text : DateTime → List Char
  | date d => d.text
  | time t => t.text
  | moment d t offset => d.text ++ 'T' :: t.text ++ (offset.map Offset.text).getD []

end Phrasebook.Toml
