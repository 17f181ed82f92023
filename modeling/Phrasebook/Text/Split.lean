import Phrasebook.Text.Blank

/-!
## Splitting and joining

A text with `n` separators has `n + 1` pieces, some of them possibly empty; writing the separator
between the pieces gives the text back.

* `pieces` cuts a text at every character that satisfies a test, and `splitAt sep` at every
  occurrence of one character.
* `joinWith` writes a separator between pieces.
* `cut?` cuts at the first occurrence of a character only.
-/

namespace Phrasebook.Text

/-- The pieces of a text between the characters that satisfy `p`. -/
def pieces (p : Char → Bool) : List Char → List (List Char)
  | [] => [[]]
  | c :: cs =>
    if p c then [] :: pieces p cs
    else match pieces p cs with
      | [] => [[c]]
      | piece :: rest => (c :: piece) :: rest

/-- The pieces of a text between the occurrences of `sep`. -/
def splitAt (sep : Char) (s : List Char) : List (List Char) :=
  pieces (· == sep) s

/-- The pieces in order, with `sep` between neighbours. -/
def joinWith (sep : List Char) : List (List Char) → List Char
  | [] => []
  | [piece] => piece
  | piece :: rest => piece ++ sep ++ joinWith sep rest

/-- The maximal runs of characters that are not white space. -/
def words (s : List Char) : List (List Char) :=
  (pieces isBlank s).filter (fun word => !word.isEmpty)

/-- What stands before and after the first `sep`, if there is one. -/
def cut? (sep : Char) : List Char → Option (List Char × List Char)
  | [] => none
  | c :: cs =>
    if c == sep then some ([], cs)
    else (cut? sep cs).map fun (before, after) => (c :: before, after)

/-- What stands before and after the last `sep`, if there is one. -/
def cutLast? (sep : Char) (s : List Char) : Option (List Char × List Char) :=
  (cut? sep s.reverse).map fun (after, before) => (before.reverse, after.reverse)

end Phrasebook.Text
