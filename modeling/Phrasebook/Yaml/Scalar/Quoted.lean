import Phrasebook.Text.Decimal
import Phrasebook.Yaml.Scalar.Basic

/-!
## Scalars in quotes

Between single quotes only the quote itself needs to be written in another way, twice.  Between
double quotes a backslash begins an escape; before a line break it joins two lines without a space.

* `readQuoted` reads a scalar in quotes of either kind.
-/

namespace Phrasebook.Yaml

open Phrasebook.Text

/-- The character for the letter behind a backslash. -/
def unescape? (c : Char) : Option Char :=
  match c with
  | '0' => some '\x00'
  | 'a' => some '\x07'
  | 'b' => some '\x08'
  | 't' | '\t' => some '\t'
  | 'n' => some '\n'
  | 'v' => some '\x0b'
  | 'f' => some '\x0c'
  | 'r' => some '\r'
  | 'e' => some '\x1b'
  | ' ' => some ' '
  | '"' => some '"'
  | '/' => some '/'
  | '\\' => some '\\'
  | 'N' => some (Char.ofNat 0x85)
  | '_' => some (Char.ofNat 0xA0)
  | 'L' => some (Char.ofNat 0x2028)
  | 'P' => some (Char.ofNat 0x2029)
  | _ => none

/-- How many hexadecimal digits follow the letter behind a backslash. -/
def codeLength (c : Char) : Nat :=
  match c with
  | 'x' => 2
  | 'u' => 4
  | 'U' => 8
  | _ => 0

/-- The character that the letter `c` behind a backslash and the text behind it stand for, and how
many characters of that text belong to it. -/
def escape? (c : Char) (s : List Char) : Option (Char × Nat) :=
  let n := codeLength c
  if n = 0 then (unescape? c).map fun x => (x, 0)
  else if s.length < n then none
  else (codePoint? (s.take n)).map fun x => (x, n)

/-- The characters from here on to the next gap or the end of the scalar, whether an escaped line
break ends them, and the place behind them. -/
def readRun (quote : Char) : Nat → Cursor → Option (List Char × Bool × Cursor)
  | 0, _ => none
  | fuel + 1, cur =>
    let go (c : Char) (n : Nat) : Option (List Char × Bool × Cursor) :=
      (readRun quote fuel (cur.skip n)).map fun (run, joined, cur) => (c :: run, joined, cur)
    match cur.rest with
    | [] => some ([], false, cur)
    | c :: s =>
      if isGap c then some ([], false, cur)
      else if c == quote then
        if quote == '\'' && s.head? = some quote then go quote 2 else some ([], false, cur)
      else if c == '\\' && quote == '"' then
        match s with
        | [] => none
        | d :: s =>
          if isBreak d then some ([], true, cur.skip 2)
          else (escape? d s).bind fun (x, n) => go x (n + 2)
      else go c 1

/-- The content of a scalar from here on, and the place behind its end.  No mark of a document may
stand in it. -/
def readQuotedText (quote : Char) : Nat → Cursor → Option (List Char × Cursor)
  | 0, _ => none
  | fuel + 1, cur =>
    if cur.isAnyMark || cur.rest.isEmpty then none
    else do
      let (run, joined, cur) ← readRun quote (cur.rest.length + 1) cur
      if cur.rest.head? = some quote then return (run, cur.next)
      else
        let (gap, after) := cur.span isGap
        -- Behind an escaped line break there is nothing left to fold.
        let gap := if joined then gap.filter isBreak else foldGap gap
        let (more, cur) ← readQuotedText quote fuel after
        return (run ++ gap ++ more, cur)

/-- The scalar in quotes that begins here, and the place behind it. -/
def readQuoted (quote : Char) (cur : Cursor) : Option (String × Cursor) :=
  (readQuotedText quote (cur.rest.length + 1) cur.next).map fun (text, cur) =>
    (String.ofList text, cur)

end Phrasebook.Yaml
