import Phrasebook.Choice.Rule
import Phrasebook.Text.Utf8

/-!
## Markers by their places

A place in a text is the number of bytes in front of it, as the text is written in UTF-8.  A text
can be cut at its ends and between two characters, and a cut anywhere else fails.  So does taking
the distance from a place to an earlier one.

Here a choice string is read by such places.  A marker is found as the span between two of them, and
the phrase is what is left when this span is cut out.

* `cutAt` cuts a text at a place, and `distance` takes a distance.
* `exactSpan` and `intervalSpan` find the leftmost marker of each form.
* `withoutSpan` cuts a span out of a text.
* `rulesByPlace` reads the rules of a choice string in this way.
-/

namespace Phrasebook.Choice

open Phrasebook.Text

/-! ### Places -/

/-- What is wrong with a place. -/
inductive PlaceFault where
  /-- The text ends before it. -/
  | outside
  /-- It is within a character. -/
  | inside
  /-- It comes before the place from which the distance to it is taken. -/
  | backwards
  deriving DecidableEq, Repr

/-- The text before a place, and the text from there on. -/
def cutAt : Nat → List Char → Except PlaceFault (List Char × List Char)
  | 0, s => .ok ([], s)
  | _ + 1, [] => .error .outside
  | place + 1, c :: cs =>
    if c.utf8Size ≤ place + 1 then
      (cutAt (place + 1 - c.utf8Size) cs).map fun (before, after) => (c :: before, after)
    else .error .inside

/-- The text before a place. -/
def upTo (place : Nat) (s : List Char) : Except PlaceFault (List Char) :=
  (cutAt place s).map Prod.fst

/-- The text from a place on. -/
def onFrom (place : Nat) (s : List Char) : Except PlaceFault (List Char) :=
  (cutAt place s).map Prod.snd

/-- How far a number is behind another. -/
def distance (start stop : Nat) : Except PlaceFault Nat :=
  if start ≤ stop then .ok (stop - start) else .error .backwards

/-- The places at which a character stands in a text, of which the first place is `place`. -/
def placesFrom (c : Char) (place : Nat) : List Char → List Nat
  | [] => []
  | d :: cs =>
    if d = c then place :: placesFrom c (place + d.utf8Size) cs
    else placesFrom c (place + d.utf8Size) cs

/-! ### Digits -/

/-- Whether a byte is one of the ten ASCII digits. -/
def isDigitByte (b : UInt8) : Bool :=
  0x30 ≤ b.toNat && b.toNat ≤ 0x39

/-- How many bytes at the start of a text are digits. -/
def leadingDigits (s : List Char) : Nat :=
  ((Utf8.encode s).takeWhile isDigitByte).length

/-- A value with one more digit, given as a byte, at its end; a value that would pass the largest
count stays there. -/
def pushByte (value : Nat) (b : UInt8) : Except PlaceFault Nat := do
  let digit ← distance 0x30 b.toNat
  return min (min (10 * value) maxCount + digit) maxCount

/-- The value of a run of digits, read byte by byte. -/
def bytesValue (digits : List Char) : Except PlaceFault Nat :=
  (Utf8.encode digits).foldlM pushByte 0

/-! ### Markers -/

/-- The part of a text between two places. -/
structure Span where
  /-- The place at which it begins. -/
  start : Nat
  /-- The place behind it. -/
  stop : Nat
  deriving DecidableEq, Repr

/-- The number of bytes in the span. -/
def Span.length (span : Span) : Nat :=
  span.stop - span.start

/-- The exact marker whose brace stands at `start`, if there is one. -/
def exactAt (segment : List Char) (start : Nat) : Except PlaceFault (Option (Span × Marker)) := do
  let body ← onFrom (start + 1) segment
  let len := leadingDigits body
  if len = 0 then return none
  match ← onFrom len body with
  | '}' :: _ =>
    let count ← bytesValue (← upTo len body)
    return some (⟨start, start + len + 2⟩, .exact count)
  | _ => return none

/-- The leftmost exact marker with its span. -/
def exactSpan (segment : List Char) : Except PlaceFault (Option (Span × Marker)) :=
  (placesFrom '{' 0 segment).findSomeM? (exactAt segment)

/-- The upper end of an interval at the start of a text, and what follows it. -/
def upperAt : List Char → Except PlaceFault (Option (Bound × List Char))
  | '*' :: rest => return some (.unbounded, rest)
  | s => do
    let len := leadingDigits s
    if len = 0 then return none
    let high ← bytesValue (← upTo len s)
    return some (.inclusive high, ← onFrom len s)

/-- The interval marker whose bracket stands at `start`, if there is one.  Where it ends is found
from what follows it. -/
def intervalAt (segment : List Char) (start : Nat) :
    Except PlaceFault (Option (Span × Marker)) := do
  let body ← onFrom (start + 1) segment
  let len := leadingDigits body
  if len = 0 then return none
  let low ← bytesValue (← upTo len body)
  match ← onFrom len body with
  | ',' :: rest =>
    match ← upperAt (trimStart rest) with
    | some (high, ']' :: tail) =>
      let stop ← distance (utf8Length tail) (utf8Length segment)
      return some (⟨start, stop⟩, .interval low high)
    | _ => return none
  | _ => return none

/-- The leftmost interval marker with its span. -/
def intervalSpan (segment : List Char) : Except PlaceFault (Option (Span × Marker)) :=
  (placesFrom '[' 0 segment).findSomeM? (intervalAt segment)

/-! ### Rules -/

/-- What is left of a text without a span, without white space at either end. -/
def withoutSpan (segment : List Char) (span : Span) : Except PlaceFault (List Char) := do
  let (before, rest) ← cutAt span.start segment
  let after ← onFrom span.length rest
  return trim (before ++ after)

/-- The leftmost exact marker with its span, and if there is none the leftmost interval marker. -/
def markerSpan (segment : List Char) : Except PlaceFault (Option (Span × Marker)) := do
  match ← exactSpan segment with
  | some found => return some found
  | none => intervalSpan segment

/-- The variant that a segment between separators stands for. -/
def variantByPlace (segment : List Char) : Except PlaceFault Variant := do
  match ← markerSpan segment with
  | some (span, marker) => return ⟨some marker, ← withoutSpan segment span, segment⟩
  | none => return ⟨none, segment, segment⟩

/-- The rules of a choice string, one for each variant in written order. -/
def rulesByPlace (text : String) : Except PlaceFault (List Rule) := do
  return rulesOf (← (splitAt separator text.toList).mapM variantByPlace)

end Phrasebook.Choice
