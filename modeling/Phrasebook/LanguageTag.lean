import Phrasebook.Text.Decimal
import Phrasebook.Text.Split

/-!
## Language tags

A locale code is a language tag: subtags between hyphens or underscores.  The first is a language,
and a script, a region and any number of variants may follow in this order.

* `checkTag` says whether a code is well-formed, and which rule it breaks if not.
-/

namespace Phrasebook

open Phrasebook.Text

/-- Why a code is not a language tag. -/
inductive TagFault where
  /-- It does not begin with a language. -/
  | language
  /-- It has a subtag that cannot stand where it does. -/
  | subtag
  deriving DecidableEq, Repr

/-- The fault in words. -/
def TagFault.reason : TagFault → String
  | .language => "The given language subtag is invalid"
  | .subtag => "Invalid subtag"

namespace LanguageTag

/-- Whether a character is an ASCII letter. -/
def isAlpha (c : Char) : Bool :=
  ('a' ≤ c && c ≤ 'z') || ('A' ≤ c && c ≤ 'Z')

/-- Whether a character is an ASCII letter or digit. -/
def isAlphanumeric (c : Char) : Bool :=
  isAlpha c || isDigit c

/-- A language has two, three or five to eight letters. -/
def isLanguage (s : List Char) : Bool :=
  s.all isAlpha && (s.length == 2 || s.length == 3 || (5 ≤ s.length && s.length ≤ 8))

/-- A script has four letters. -/
def isScript (s : List Char) : Bool :=
  s.all isAlpha && s.length == 4

/-- A region has two letters or three digits. -/
def isRegion (s : List Char) : Bool :=
  (s.all isAlpha && s.length == 2) || (s.all isDigit && s.length == 3)

/-- A variant has four to eight letters or digits. -/
def isVariant (s : List Char) : Bool :=
  s.all isAlphanumeric && 4 ≤ s.length && s.length ≤ 8

/-- The list without its head, if that passes a test. -/
def dropHeadIf (p : List Char → Bool) : List (List Char) → List (List Char)
  | [] => []
  | s :: rest => if p s then rest else s :: rest

/-- The subtags of a code. -/
def subtags (code : String) : List (List Char) :=
  pieces (fun c => c == '-' || c == '_') code.toList

/-- Whether a code is a language tag, and why not. -/
def check (code : String) : Except TagFault Unit :=
  match subtags code with
  | [] => .error .language
  | language :: rest =>
    if !isLanguage language then .error .language
    else if (dropHeadIf isRegion (dropHeadIf isScript rest)).all isVariant then .ok ()
    else .error .subtag

end LanguageTag

end Phrasebook
