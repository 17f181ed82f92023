import Phrasebook.Text.Decimal
import Phrasebook.Yaml.Scalar.Basic

/-!
## Scalars on lines of their own

Behind a bar or an angle bracket a scalar stands on the lines that follow, as far as they are
indented.  What is written behind that sign tells how far they are indented and what becomes of the
line breaks at the end.

* `readBlock` reads one; `literal` tells whether its line breaks are kept or folded.
-/

namespace Phrasebook.Yaml

open Phrasebook.Text

/-- What becomes of the line breaks at the end of a scalar. -/
inductive Ending where
  /-- The first of them is kept. -/
  | clip
  /-- None is kept. -/
  | strip
  /-- All are kept. -/
  | keep
  deriving DecidableEq, Repr

/-- The sign for an ending from here on. -/
def readEnding (cur : Cursor) : Ending × Cursor :=
  match cur.rest.head? with
  | some '+' => (.keep, cur.next)
  | some '-' => (.strip, cur.next)
  | _ => (.clip, cur)

/-- The digit for an indentation from here on; zero stands for none. -/
def readIndent (cur : Cursor) : Option (Nat × Cursor) :=
  match cur.rest.head? with
  | some '0' => none
  | some d => if isDigit d then some (digitValue d, cur.next) else some (0, cur)
  | none => some (0, cur)

/-- What is written behind the sign of a scalar, in either order, and the start of the next line.
Blanks and a comment may follow it. -/
def readBlockHeader (cur : Cursor) : Option (Ending × Nat × Cursor) := do
  let (first, cur) := readEnding cur
  let (indent, cur) ← readIndent cur
  let (ending, cur) := if first = .clip then readEnding cur else (first, cur)
  let cur := cur.skipComment
  if cur.isAtBreak then return (ending, indent, cur.next) else none

/-- Passes over indentation and empty lines: gives the line breaks, the greatest column reached, and
the place where the next line has something in it.  If `indent` is zero the indentation is not known
yet; a tab must not be part of it. -/
def readBlockBreaks (indent : Nat) : Nat → Nat → Cursor → Option (List Char × Nat × Cursor)
  | 0, _, _ => none
  | fuel + 1, widest, cur =>
    let spaces := (cur.rest.takeWhile (· == ' ')).length
    let cur := cur.skip (if indent = 0 then spaces else min spaces (indent - cur.column))
    let widest := max widest cur.column
    match cur.rest with
    | [] => some ([], widest, cur)
    | c :: _ =>
      if c == '\t' && (indent = 0 || cur.column < indent) then none
      else if isBreak c then
        (readBlockBreaks indent fuel widest cur.next).map fun (breaks, widest, cur) =>
          (c :: breaks, widest, cur)
      else some ([], widest, cur)

/-- What stands between two lines of a scalar.  `first` is the break at the end of the one,
`breaks` are those of the empty lines behind it, and `blank` tells whether either line begins with a
blank, since such lines are not folded. -/
def joinLines (literal blank : Bool) (first breaks : List Char) : List Char :=
  if !literal && !blank && first = ['\n'] then (if breaks.isEmpty then [' '] else breaks)
  else first ++ breaks

/-- The lines from here on that are indented to the column `indent`, and the place behind them.
`first` and `breaks` stand before the next line, and `blank` tells whether the line before them
begins with a blank. -/
def readBlockLines (literal : Bool) (ending : Ending) (indent : Nat) :
    Nat → Bool → List Char → List Char → Cursor → Option (List Char × Cursor)
  | 0, _, _, _, _ => none
  | fuel + 1, blank, first, breaks, cur =>
    match cur.rest with
    | c :: _ =>
      if cur.column = indent then do
        let glue := joinLines literal (blank || isSpace c) first breaks
        let (line, cur) := cur.span fun c => !isBreak c
        let first := cur.rest.take 1
        let (breaks, _, cur) ← readBlockBreaks indent (cur.rest.length + 1) 0 cur.next
        let (more, cur) ← readBlockLines literal ending indent fuel (isSpace c) first breaks cur
        return (glue ++ line ++ more, cur)
      else some (finish first breaks, cur)
    | [] => some (finish first breaks, cur)
where
  /-- The line breaks at the end of the scalar. -/
  finish (first breaks : List Char) : List Char :=
    match ending with
    | .clip => first
    | .strip => []
    | .keep => first ++ breaks

/-- The scalar whose sign stands here, and the place behind it.  Its lines have to begin in the
column `least` or to the right of it; if its header gives an indentation, it is counted from the
column before. -/
def readBlock (literal : Bool) (least : Nat) (cur : Cursor) : Option (String × Cursor) := do
  let (ending, increment, cur) ← readBlockHeader cur.next
  let given := if increment = 0 then 0 else least + increment - 1
  let (breaks, widest, cur) ← readBlockBreaks given (cur.rest.length + 1) 0 cur
  let indent := if given = 0 then max widest least else given
  let (text, cur) ← readBlockLines literal ending indent (cur.rest.length + 1) false [] breaks cur
  return (String.ofList text, cur)

end Phrasebook.Yaml
