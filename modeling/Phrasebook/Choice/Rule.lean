import Phrasebook.Choice.Marker
import Phrasebook.Text.Quoted
import Phrasebook.Text.Split

/-!
## Choice strings

A choice string holds variants of one phrase, separated by `|`, and each variant is for a range of
counts.  A marked variant has the range of its marker.  The variants without a marker are numbered
1, 2, 3 and so on among themselves, each for the count that is its number; the last of them takes
all greater counts too, and zero if it is not the only one.  So `apple|apples` is `apple` for one
and `apples` for every other count that is not negative.

* `parseRules` reads the variants in order, one rule for each.
* `select` takes the first rule whose range has the count: a rule hides the later ones that it
  overlaps.
* `choose` gives the phrase of that rule, and the whole choice string if there is none.
-/

namespace Phrasebook.Choice

open Phrasebook.Text

/-- The character between the variants of a choice string. -/
def separator : Char :=
  '|'

/-- A variant with the counts that it is for. -/
structure Rule where
  /-- The marker of the variant, if it has one. -/
  marker : Option Marker
  /-- The least count of the range. -/
  low : Nat
  /-- The upper end of the range. -/
  high : Bound
  /-- Whether a count of zero belongs to the variant besides its range. -/
  zero : Bool
  /-- The phrase. -/
  text : String
  /-- The variant as it is written. -/
  raw : String
  deriving DecidableEq, Repr

namespace Rule

/-- Whether the variant is marked with one count. -/
def isExact (rule : Rule) : Bool :=
  match rule.marker with
  | some (.exact _) => true
  | _ => false

/-- Whether the variant is marked with an interval. -/
def isInterval (rule : Rule) : Bool :=
  match rule.marker with
  | some (.interval _ _) => true
  | _ => false

/-- Whether a count belongs to the variant. -/
def contains (rule : Rule) (count : Int64) : Bool :=
  (decide ((rule.low : Int) ≤ count.toInt) && decide (count.toInt ≤ (rule.high.limit : Int))) ||
    (rule.zero && count.toInt == 0)

/-- The name of the form of the marker. -/
def kindName (rule : Rule) : String :=
  match rule.marker with
  | some (.exact _) => "exact"
  | some (.interval _ _) => "interval"
  | none => "implicit"

/-- The rule in words: its range, the form of its marker, its phrase in quotes, and a remark if it
takes zero as well. -/
def display (rule : Rule) : String :=
  "[" ++ String.ofList (decimal rule.low) ++ ", " ++ rule.high.show ++ "] " ++ rule.kindName ++
    " => " ++ quote rule.text ++ (if rule.zero then ", also 0" else "")

end Rule

/-- A variant of a choice string before the unmarked variants are numbered. -/
structure Variant where
  /-- The marker of the variant, if it has one. -/
  marker : Option Marker
  /-- The phrase. -/
  phrase : List Char
  /-- The variant as it is written. -/
  raw : List Char

/-- The variant that a segment between separators stands for.  The phrase of a marked variant is
the segment without its marker and without white space at the ends, and that of an unmarked one is
the segment as it is. -/
def Variant.ofSegment (segment : List Char) : Variant :=
  match findMarker segment with
  | some s => ⟨some s.marker, s.phrase, segment⟩
  | none => ⟨none, segment, segment⟩

/-- The rule of a variant with a marker. -/
def Rule.marked (marker : Marker) (v : Variant) : Rule where
  marker := some marker
  low := marker.low
  high := marker.high
  zero := false
  text := String.ofList v.phrase
  raw := String.ofList v.raw

/-- The rule of the unmarked variant number `position` among `total`. -/
def Rule.unmarked (position total : Nat) (v : Variant) : Rule where
  marker := none
  low := min position maxCount
  high := if position = total then .unbounded else .inclusive (min position maxCount)
  zero := position = total && 1 < total
  text := String.ofList v.phrase
  raw := String.ofList v.raw

/-- The rules of variants among whose unmarked ones the first has number `next`, out of `total`. -/
def numberFrom (total : Nat) : Nat → List Variant → List Rule
  | _, [] => []
  | next, v :: vs =>
    match v.marker with
    | some marker => Rule.marked marker v :: numberFrom total next vs
    | none => Rule.unmarked next total v :: numberFrom total (next + 1) vs

/-- The number of variants without a marker. -/
def unmarkedCount (vs : List Variant) : Nat :=
  vs.countP fun v => v.marker.isNone

/-- The rules of variants in order. -/
def rulesOf (vs : List Variant) : List Rule :=
  numberFrom (unmarkedCount vs) 1 vs

/-- The rules of a choice string, one for each variant in written order. -/
def parseRules (text : String) : List Rule :=
  rulesOf ((splitAt separator text.toList).map Variant.ofSegment)

/-- The first rule to which a count belongs. -/
def select (rules : List Rule) (count : Int64) : Option Rule :=
  rules.find? fun rule => rule.contains count

/-- The phrase for a count, or the whole choice string if no variant is for it. -/
def choose (text : String) (count : Int64) : String :=
  match select (parseRules text) count with
  | some rule => rule.text
  | none => text

/-- The rules of a choice string in words, one on a line. -/
def explain (text : String) : String :=
  "\n".intercalate ((parseRules text).map Rule.display)

end Phrasebook.Choice
