import Phrasebook.Text.Decimal
import Phrasebook.Yaml.Token

/-!
## Directives

Behind a percent sign at the start of a line stands something about the next document: the version
of YAML, or what a handle of tags stands for.

* `readDirective` reads the line.
-/

namespace Phrasebook.Yaml

open Phrasebook.Text

/-- The greatest number of digits in the number of a version. -/
def versionDigits : Nat :=
  9

/-- The number from here on, and the place behind it. -/
def readVersionNumber (cur : Cursor) : Option (Nat × Cursor) :=
  let (digits, cur) := cur.span isDigit
  if digits.isEmpty || versionDigits < digits.length then none
  else some (digitsValue digits, cur)

/-- The version from here on, and the place behind it. -/
def readVersion (cur : Cursor) : Option (Token × Cursor) := do
  let (major, cur) ← readVersionNumber cur
  if cur.rest.head? = some '.' then
    let (minor, cur) ← readVersionNumber cur.next
    return (.version major minor, cur)
  else none

/-- The handle of tags and its meaning from here on, and the place behind them. -/
def readHandleMeaning (cur : Cursor) : Option (Token × Cursor) := do
  let (handle, cur) ← readHandle cur
  if (handle = ['!'] || isNamedHandle handle) && cur.rest.head?.any isSpace then
    let (meaning, cur) ← readSomeTagPart true (cur.skipWhile isSpace)
    if cur.isGapAt 0 then return (.handle (String.ofList handle) meaning, cur) else none
  else none

/-- The directive whose percent sign stands here, and the start of the next line. -/
def readDirective (cur : Cursor) : Option (Token × Cursor) := do
  let (name, cur) := cur.next.span isNameChar
  if !cur.isGapAt 0 then none
  else
    let cur := cur.skipWhile isSpace
    let (token, cur) ←
      if name = "YAML".toList then readVersion cur
      else if name = "TAG".toList then readHandleMeaning cur
      else none
    let cur := cur.skipComment
    if cur.isAtBreak then return (token, cur.next) else none

end Phrasebook.Yaml
