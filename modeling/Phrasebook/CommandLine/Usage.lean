import Phrasebook.Text.Decimal
import Phrasebook.Text.Split

/-!
## Arguments with structure

Some arguments of a command line are more than a text: a count is an integer of 64 bits, a
placeholder is written `NAME=VALUE`, and a catalog file is written `LOCALE=FILE`.

* `UsageFault` says why a command line cannot be followed.
* `splitPair` cuts an argument at its first equals sign; there has to be something before it.
* `parseCount` reads a count.
-/

namespace Phrasebook

open Phrasebook.Text

/-- What help can be asked about. -/
inductive Topic where
  | program
  | translate
  | choice
  | rules
  | help
  deriving DecidableEq, Repr

/-- Why a command line is not followed. -/
inductive UsageFault where
  /-- A value that its argument does not take, with the reason in words. -/
  | badValue (reason : String)
  /-- A value is missing, or is empty where it must not be. -/
  | missingValue
  /-- A value for an option that takes none. -/
  | unwantedValue
  /-- An option that there is not, or one argument too many. -/
  | unknownArgument
  /-- An option that may be given once is given twice. -/
  | repeatedOption
  /-- An argument of a command is missing. -/
  | missingArgument
  /-- There are options but no command. -/
  | missingCommand
  /-- There is nothing at all. -/
  | nothing
  /-- A command that there is not. -/
  | unknownCommand
  /-- Help is asked for. -/
  | help (topic : Topic)
  /-- The version is asked for. -/
  | version
  deriving DecidableEq, Repr

namespace CommandLine

/-! ### Pairs -/

/-- What stands before and behind the first equals sign.  Something has to stand before it. -/
def splitPair (raw : String) : Except UsageFault (String × String) :=
  match cut? '=' raw.toList with
  | some (c :: name, value) => .ok (String.ofList (c :: name), String.ofList value)
  | _ => .error (.badValue ("expected NAME=VALUE, got '" ++ raw ++ "'"))

/-- A placeholder's name and value. -/
def parsePlaceholder (raw : String) : Except UsageFault (String × String) :=
  splitPair raw

/-- A file with the catalog of a locale. -/
structure CatalogFile where
  locale : String
  path : String
  deriving DecidableEq, Repr

/-- A catalog file with its locale.  The file must not be empty. -/
def parseCatalogFile (raw : String) : Except UsageFault CatalogFile :=
  match splitPair raw with
  | .error fault => .error fault
  | .ok (locale, path) =>
    if path.isEmpty then .error (.badValue ("missing catalog file in '" ++ raw ++ "'"))
    else .ok ⟨locale, path⟩

/-! ### Counts -/

/-- The number that digits write behind those of `value`, as long as it does not pass a limit;
`tooFar` is the reason given where it does.  The first fault from the left is reported. -/
def readDigits (limit : Nat) (tooFar : String) : Nat → List Char → Except UsageFault Nat
  | value, [] => .ok value
  | value, c :: rest =>
    if !isDigit c then .error (.badValue "invalid digit found in string")
    else if limit < 10 * value + digitValue c then .error (.badValue tooFar)
    else readDigits limit tooFar (10 * value + digitValue c) rest

/-- The digits of a count, of which there has to be one at least. -/
def readMagnitude (limit : Nat) (tooFar : String) (digits : List Char) : Except UsageFault Nat :=
  if digits.isEmpty then .error (.badValue "invalid digit found in string")
  else readDigits limit tooFar 0 digits

/-- The integer of 64 bits that an argument writes. -/
def parseCount (raw : String) : Except UsageFault Int64 :=
  match raw.toList with
  | [] => .error (.badValue "cannot parse integer from empty string")
  | '-' :: digits =>
    (readMagnitude 0x8000000000000000 "number too small to fit in target type" digits).map fun n =>
      Int64.ofInt (-n)
  | '+' :: digits =>
    (readMagnitude 0x7FFFFFFFFFFFFFFF "number too large to fit in target type" digits).map fun n =>
      Int64.ofInt n
  | digits =>
    (readMagnitude 0x7FFFFFFFFFFFFFFF "number too large to fit in target type" digits).map fun n =>
      Int64.ofInt n

/-- A path, which must not be empty. -/
def parsePath (raw : String) : Except UsageFault String :=
  if raw.isEmpty then .error .missingValue else .ok raw

end CommandLine

end Phrasebook
