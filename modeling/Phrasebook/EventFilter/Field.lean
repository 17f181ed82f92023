import Phrasebook.Decimal.Literal
import Phrasebook.Decimal.Shortest
import Phrasebook.Pattern.Parser
import Phrasebook.Text.Split

/-!
## Conditions on fields

A filter can ask for a field of a span by its name, and also for what the field holds: a truth
value, a number, or a text that a pattern covers.

* `FieldTest.parse?` reads such a condition.  What is written behind the name is the first of these
  that it can be.
* `FieldTest.compare` orders conditions, those that ask for more behind the others.
-/

namespace Phrasebook

open Phrasebook.Text

/-- What a field has to hold. -/
inductive FieldValue where
  | bool (b : Bool)
  /-- A floating-point number. -/
  | float (x : Float)
  /-- What is no number, though of the type of numbers. -/
  | nan
  /-- A natural number of 64 bits. -/
  | natural (n : Nat)
  /-- A negative number of 64 bits. -/
  | integer (n : Int)
  /-- A text that a pattern covers, with the pattern as it is written. -/
  | text (source : String) (p : Pattern)

namespace FieldValue

/-- The natural number of 64 bits that is written with digits and possibly a plus sign. -/
def natural? (s : List Char) : Option Nat :=
  let digits := match s with
    | '+' :: ds => ds
    | ds => ds
  if digits.isEmpty || !digits.all isDigit then none
  else some (digitsValue digits) |>.filter (· < UInt64.size)

/-- The integer of 64 bits that is written with digits behind a minus sign. -/
def negative? (s : List Char) : Option Int :=
  match s with
  | '-' :: digits =>
    if digits.isEmpty || !digits.all isDigit || 0x8000000000000000 < digitsValue digits then none
    else some (-digitsValue digits)
  | _ => none

/-- The value that a text asks for. -/
def parse? (s : List Char) : Option FieldValue :=
  if s = "true".toList then some (.bool true)
  else if s = "false".toList then some (.bool false)
  else match natural? s, negative? s, Decimal.float? s with
    | some n, _, _ => some (.natural n)
    | _, some n, _ => some (.integer n)
    | _, _, some x => some (if x.isNaN then .nan else .float x)
    | _, _, _ => (Pattern.parse? s).map (.text (String.ofList s))

/-- A value as it is written. -/
def display : FieldValue → String
  | .bool b => if b then "true" else "false"
  | .float x => Decimal.ofFloat x
  | .nan => "NaN"
  | .natural n => String.ofList (decimal n)
  | .integer n => String.ofList (decimalInt n)
  | .text source _ => source

/-- The place of a kind of values among all. -/
def rank : FieldValue → Nat
  | .bool _ => 0
  | .float _ => 1
  | .nan => 2
  | .natural _ => 3
  | .integer _ => 4
  | .text _ _ => 5

/-- The order of values: by their kinds, and within a kind as usual. -/
def compare : FieldValue → FieldValue → Ordering
  | .bool a, .bool b => Ord.compare a b
  | .float x, .float y => if x < y then .lt else if x == y then .eq else .gt
  | .natural m, .natural n => Ord.compare m n
  | .integer m, .integer n => Ord.compare m n
  | .text s _, .text t _ => Ord.compare s t
  | a, b => Ord.compare a.rank b.rank

/-- Whether a field with some text holds the value.  A text is never a number or a truth value. -/
def accepts (text : String) : FieldValue → Bool
  | .text _ p => p.covers text.toList
  | _ => false

end FieldValue

/-- A condition on a field. -/
structure FieldTest where
  name : String
  /-- What the field has to hold, if that matters. -/
  value : Option FieldValue

namespace FieldTest

/-- Reads a condition: a name, and possibly a value behind an equals sign.  What stands behind a
second equals sign does not count. -/
def parse? (s : List Char) : Option FieldTest :=
  match splitAt '=' s with
  | name :: value :: _ =>
    (FieldValue.parse? value).map fun v => ⟨String.ofList name, some v⟩
  | _ => some ⟨String.ofList s, none⟩

/-- A condition as it is written. -/
def display (t : FieldTest) : String :=
  match t.value with
  | some v => t.name ++ "=" ++ v.display
  | none => t.name

/-- The order of conditions: those with a value last, then by name, then by value. -/
def compare (t u : FieldTest) : Ordering :=
  let byValue := match t.value, u.value with
    | some v, some w => v.compare w
    | _, _ => .eq
  ((Ord.compare t.value.isSome u.value.isSome).then (Ord.compare t.name u.name)).then byValue

/-- Whether the field is among some fields, whatever it holds. -/
def names (fields : List String) (t : FieldTest) : Bool :=
  fields.contains t.name

/-- Whether the field is there and holds what is asked for. -/
def accepts (fields : List (String × String)) (t : FieldTest) : Bool :=
  match Entries.find? t.name fields, t.value with
  | some text, some v => v.accepts text
  | some _, none => true
  | none, _ => false

end FieldTest

end Phrasebook
