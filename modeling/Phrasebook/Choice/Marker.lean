import Phrasebook.Text.Blank
import Phrasebook.Text.Decimal

/-!
## Range markers

A variant of a choice string may carry a marker that says which counts it is for.

| written    | marks the counts        |
|------------|-------------------------|
| `{3}`      | exactly 3               |
| `[2, 5]`   | from 2 to 5             |
| `[2, *]`   | from 2 on               |

The numbers are runs of ASCII digits.  White space may stand after the comma of an interval and
nowhere else.  A number above the largest count means the largest count.

* `readExact` and `readInterval` read one marker at the start of a text.
* `findExact` and `findInterval` find the leftmost marker of each form in a text.
* `findMarker` prefers an exact marker to an interval, wherever they stand.
-/

namespace Phrasebook.Choice

open Phrasebook.Text

/-- The largest count, that of a signed word of 64 bits. -/
def maxCount : Nat :=
  0x7FFFFFFFFFFFFFFF

/-- The upper end of a range of counts. -/
inductive Bound where
  /-- Counts up to this one. -/
  | inclusive (limit : Nat)
  /-- All counts. -/
  | unbounded
  deriving DecidableEq, Repr

/-- The upper end as a number, the largest count if there is none. -/
def Bound.limit : Bound → Nat
  | .inclusive limit => limit
  | .unbounded => maxCount

/-- The upper end as it is shown, a star if there is none. -/
def Bound.show : Bound → String
  | .inclusive limit => String.ofList (decimal limit)
  | .unbounded => "*"

/-- What a marker says. -/
inductive Marker where
  /-- This count only. -/
  | exact (count : Nat)
  /-- The counts between two ends, both included. -/
  | interval (low : Nat) (high : Bound)
  deriving DecidableEq, Repr

/-- The lower end of the marked range. -/
def Marker.low : Marker → Nat
  | .exact count => count
  | .interval low _ => low

/-- The upper end of the marked range. -/
def Marker.high : Marker → Bound
  | .exact count => .inclusive count
  | .interval _ high => high

/-- A value with one more digit at its end; one that would pass the largest count stays there. -/
def pushDigit (value : Nat) (d : Char) : Nat :=
  min (min (10 * value) maxCount + digitValue d) maxCount

/-- The value of a run of digits, read digit by digit. -/
def saturated (digits : List Char) : Nat :=
  digits.foldl pushDigit 0

theorem pushDigit_min (value : Nat) (d : Char) :
    pushDigit (min value maxCount) d = min (10 * value + digitValue d) maxCount := by
  unfold pushDigit
  omega

theorem foldl_pushDigit (digits : List Char) (value : Nat) :
    digits.foldl pushDigit (min value maxCount) =
      min (digits.foldl (fun value d => 10 * value + digitValue d) value) maxCount := by
  induction digits generalizing value with
  | nil => rfl
  | cons d ds ih => rw [List.foldl_cons, List.foldl_cons, pushDigit_min, ih]

/-- A value that has reached the largest count stays there, so a run of digits has its exact value,
or the largest count if that is less. -/
theorem saturated_eq (digits : List Char) :
    saturated digits = min (digitsValue digits) maxCount :=
  foldl_pushDigit digits 0

/-! ### One marker at the start of a text -/

/-- A marker that stands at the start of a text. -/
structure Reading where
  /-- What the marker says. -/
  marker : Marker
  /-- The characters of the marker. -/
  token : List Char
  /-- What follows the marker. -/
  after : List Char

/-- Reads `{`, digits and `}`. -/
def readExact : List Char → Option Reading
  | '{' :: s =>
    match s.takeWhile isDigit, s.dropWhile isDigit with
    | d :: ds, '}' :: after =>
      some ⟨.exact (saturated (d :: ds)), '{' :: (d :: ds) ++ ['}'], after⟩
    | _, _ => none
  | _ => none

/-- Reads the upper end of an interval, a star or digits: the end, its characters and the rest. -/
def readUpper : List Char → Option (Bound × List Char × List Char)
  | '*' :: rest => some (.unbounded, ['*'], rest)
  | s =>
    match s.takeWhile isDigit with
    | [] => none
    | d :: ds => some (.inclusive (saturated (d :: ds)), d :: ds, s.dropWhile isDigit)

/-- Reads `[`, digits, a comma, white space, a star or digits, and `]`. -/
def readInterval : List Char → Option Reading
  | '[' :: s =>
    match s.takeWhile isDigit, s.dropWhile isDigit with
    | d :: ds, ',' :: t =>
      match readUpper (t.dropWhile isBlank) with
      | some (high, upper, ']' :: after) =>
        some ⟨.interval (saturated (d :: ds)) high,
          '[' :: (d :: ds) ++ ',' :: t.takeWhile isBlank ++ upper ++ [']'], after⟩
      | _ => none
    | _, _ => none
  | _ => none

/-! ### The leftmost marker of a text -/

/-- A marker with the text around it. -/
structure Sighting where
  /-- What the marker says. -/
  marker : Marker
  /-- The text before the marker. -/
  before : List Char
  /-- The characters of the marker. -/
  token : List Char
  /-- The text behind the marker. -/
  after : List Char

/-- The leftmost place of a text at which `read` succeeds. -/
def findFirst (read : List Char → Option Reading) : List Char → Option Sighting
  | [] => none
  | c :: cs =>
    match read (c :: cs) with
    | some reading => some ⟨reading.marker, [], reading.token, reading.after⟩
    | none => (findFirst read cs).map fun s => { s with before := c :: s.before }

/-- The leftmost exact marker. -/
def findExact (segment : List Char) : Option Sighting :=
  findFirst readExact segment

/-- The leftmost interval marker. -/
def findInterval (segment : List Char) : Option Sighting :=
  findFirst readInterval segment

/-- The leftmost exact marker, and if there is none the leftmost interval marker. -/
def findMarker (segment : List Char) : Option Sighting :=
  (findExact segment).or (findInterval segment)

/-! ### Places in the written text -/

/-- The number of bytes that a text takes in UTF-8. -/
def utf8Length : List Char → Nat
  | [] => 0
  | c :: cs => c.utf8Size + utf8Length cs

/-- The byte at which the marker begins. -/
def Sighting.start (s : Sighting) : Nat :=
  utf8Length s.before

/-- The byte behind the marker. -/
def Sighting.stop (s : Sighting) : Nat :=
  s.start + utf8Length s.token

/-- What is left of the text without the marker, without white space at either end. -/
def Sighting.phrase (s : Sighting) : List Char :=
  trim (s.before ++ s.after)

end Phrasebook.Choice
