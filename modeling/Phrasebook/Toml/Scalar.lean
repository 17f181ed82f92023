import Phrasebook.Decimal.Literal
import Phrasebook.Text.Split
import Phrasebook.Toml.Value

/-!
## The scalars of TOML

Strings are written in four ways: with escapes or literally, on one line or on several.  Everything
else is a word without spaces: a truth value, an integer in one of four bases, a floating-point
number, or a date.

* `readString` reads a string of any of the four kinds, and `readKeyString` one on a single line.
* `ofWord?` says what a word stands for.
-/

namespace Phrasebook.Toml

open Phrasebook.Text

/-- Whether a character may stand in a string or a comment as it is, line breaks apart. -/
def isPlain (c : Char) : Bool :=
  c == '\t' || (0x20 ≤ c.toNat && c.toNat != 0x7F)

/-! ### Strings -/

/-- The character that is written behind a backslash, and the rest. -/
def readEscape : List Char → Option (Char × List Char)
  | 'b' :: s => some ('\x08', s)
  | 't' :: s => some ('\t', s)
  | 'n' :: s => some ('\n', s)
  | 'f' :: s => some ('\x0c', s)
  | 'r' :: s => some ('\r', s)
  | '"' :: s => some ('"', s)
  | '\\' :: s => some ('\\', s)
  | 'u' :: s =>
    if 4 ≤ s.length then (codePoint? (s.take 4)).map fun c => (c, s.drop 4) else none
  | 'U' :: s =>
    if 8 ≤ s.length then (codePoint? (s.take 8)).map fun c => (c, s.drop 8) else none
  | _ => none

/-- A text without the line break at its start, if there is one there. -/
def dropBreak? : List Char → Option (List Char)
  | '\n' :: s => some s
  | '\r' :: '\n' :: s => some s
  | _ => none

/-- A text without the blanks at its start. -/
def skipBlanks (s : List Char) : List Char :=
  s.dropWhile fun c => c == ' ' || c == '\t'

/-- A text without the blanks and line breaks at its start. -/
def skipGap : List Char → List Char
  | '\r' :: '\n' :: s => skipGap s
  | c :: s => if c == ' ' || c == '\t' || c == '\n' then skipGap s else c :: s
  | [] => []

/-- The rest behind a backslash that ends its line: blanks and line breaks are skipped.  There has
to be a line break before anything else. -/
def skipFold (s : List Char) : Option (List Char) :=
  (dropBreak? (skipBlanks s)).map skipGap

/-- How a string is written. -/
structure StringForm where
  /-- The quote that ends it. -/
  quote : Char
  /-- Whether it has escapes. -/
  escapes : Bool
  /-- Whether it may have several lines; then three quotes end it. -/
  lines : Bool

/-- The content of a string and the rest behind its end.  A string of several lines may have up to
two quotes right before the three that end it. -/
def readBody (form : StringForm) : Nat → List Char → Option (List Char × List Char)
  | 0, _ => none
  | _ + 1, [] => none
  | fuel + 1, c :: s =>
    if c == form.quote then
      if form.lines then
        let run := (c :: s).takeWhile (· == form.quote)
        let rest := (c :: s).dropWhile (· == form.quote)
        if run.length < 3 then (readBody form fuel rest).map fun (body, s) => (run ++ body, s)
        else if run.length ≤ 5 then some (run.drop 3, rest)
        else none
      else some ([], s)
    else if c == '\\' && form.escapes then
      match readEscape s with
      | some (c, s) => (readBody form fuel s).map fun (body, s) => (c :: body, s)
      | none => if form.lines then (skipFold s).bind (readBody form fuel) else none
    else match dropBreak? (c :: s) with
      | some s =>
        if form.lines then (readBody form fuel s).map fun (body, s) => ('\n' :: body, s) else none
      | none =>
        if isPlain c then (readBody form fuel s).map fun (body, s) => (c :: body, s) else none

/-- The content of a string of some form, and the rest. -/
def readForm (form : StringForm) (s : List Char) : Option (String × List Char) :=
  (readBody form (s.length + 1) s).map fun (body, rest) => (String.ofList body, rest)

/-- The string on a single line at the start of a text, and the rest. -/
def readKeyString : List Char → Option (String × List Char)
  | '"' :: s => readForm ⟨'"', true, false⟩ s
  | '\'' :: s => readForm ⟨'\'', false, false⟩ s
  | _ => none

/-- The string at the start of a text, and the rest.  A line break right behind three opening quotes
is no part of the string. -/
def readString : List Char → Option (String × List Char)
  | '"' :: '"' :: '"' :: s => readForm ⟨'"', true, true⟩ ((dropBreak? s).getD s)
  | '\'' :: '\'' :: '\'' :: s => readForm ⟨'\'', false, true⟩ ((dropBreak? s).getD s)
  | s => readKeyString s

/-! ### Words -/

/-- Whether a character may stand in a word. -/
def isWordChar (c : Char) : Bool :=
  c.isAlphanum || c == '_' || c == '-' || c == '+' || c == '.' || c == ':'

/-- The digits of a group of digits in which an underscore may stand between two of them. -/
def ungroup? (isDigit : Char → Bool) (s : List Char) : Option (List Char) :=
  let groups := splitAt '_' s
  if groups.all (fun group => !group.isEmpty && group.all isDigit) then some groups.flatten
  else none

/-- A word without its sign, and whether the sign is a minus. -/
def unsign : List Char → Bool × List Char
  | '-' :: s => (true, s)
  | '+' :: s => (false, s)
  | s => (false, s)

/-- The number of digits in some base. -/
def inBase (base : Nat) (digits : List Char) : Nat :=
  digits.foldl (fun n c => base * n + (hexValue? c).getD 0) 0

/-- The digits of a decimal number without a leading zero. -/
def wholeDigits? (s : List Char) : Option (List Char) :=
  (ungroup? isDigit s).filter fun digits => digits.head? != some '0' || digits.length = 1

/-- The integer that a word writes. -/
def integer? (s : List Char) : Option Int :=
  match s with
  | '0' :: 'x' :: digits =>
    (ungroup? (fun c => (hexValue? c).isSome) digits).map fun ds => inBase 16 ds
  | '0' :: 'o' :: digits =>
    (ungroup? (fun c => isDigit c && c < '8') digits).map fun ds => inBase 8 ds
  | '0' :: 'b' :: digits =>
    (ungroup? (fun c => c == '0' || c == '1') digits).map fun ds => inBase 2 ds
  | s =>
    let (negative, digits) := unsign s
    (wholeDigits? digits).map fun ds => if negative then -(digitsValue ds : Int) else digitsValue ds

/-- Whether a word writes a floating-point number. -/
def isFloat (s : List Char) : Bool :=
  let s := (unsign s).2
  if s = "inf".toList || s = "nan".toList then true
  else
    let (base, exponent) := match cut? 'e' (s.map fun c => if c == 'E' then 'e' else c) with
      | some (base, exponent) => (base, some exponent)
      | none => (s, none)
    let (whole, fraction) := match cut? '.' base with
      | some (whole, fraction) => (whole, some fraction)
      | none => (base, none)
    (exponent.isSome || fraction.isSome) && (wholeDigits? whole).isSome &&
      fraction.all (fun ds => (ungroup? isDigit ds).isSome) &&
      exponent.all (fun ds => (ungroup? isDigit (unsign ds).2).isSome)

/-- Whether the number that a word writes rounds to no finite double.  The words for infinity are
numbers of their own. -/
def isTooGreat (s : List Char) : Bool :=
  (Decimal.literal? (s.filter (· != '_'))).any fun n => !n.negative && n.exceedsDouble

/-- What a word stands for.  Integers have 64 bits, and a number with a point or an exponent must
not be too great for a double; one that is too small for a double may stand there. -/
def ofWord? (s : List Char) : Option Value :=
  if s = "true".toList then some (.bool true)
  else if s = "false".toList then some (.bool false)
  else match integer? s, DateTime.parse? s with
    | some n, _ =>
      if -0x8000000000000000 ≤ n && n ≤ 0x7FFFFFFFFFFFFFFF then some (.integer n) else none
    | none, some t => some (.dateTime t)
    | none, none => if isFloat s && !isTooGreat s then some .float else none

/-- The word at the start of a text, and the rest.  A day and a time of day may have a space between
them. -/
def readWord (s : List Char) : Option (Value × List Char) :=
  let word := s.takeWhile isWordChar
  let rest := s.dropWhile isWordChar
  match rest with
  | ' ' :: d :: more =>
    if (Date.parse? word).isSome && isDigit d then
      let time := (d :: more).takeWhile isWordChar
      (ofWord? (word ++ ' ' :: time)).map fun v => (v, (d :: more).dropWhile isWordChar)
    else (ofWord? word).map fun v => (v, rest)
  | _ => (ofWord? word).map fun v => (v, rest)

/-- The scalar at the start of a text, and the rest. -/
def readScalar (s : List Char) : Option (Value × List Char) :=
  match s with
  | '"' :: _ | '\'' :: _ => (readString s).map fun (text, rest) => (.text text, rest)
  | _ => readWord s

end Phrasebook.Toml
