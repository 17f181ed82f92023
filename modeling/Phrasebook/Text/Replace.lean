/-!
## Replacing every occurrence

`replaceAll` replaces the occurrences of a pattern from left to right.  Occurrences do not overlap:
after one, the search goes on behind it, and the text that was put in is not searched again.
-/

namespace Phrasebook.Text

/-- `replaceFrom pattern new n s` leaves out the first `n` characters of `s`, the rest of an
occurrence that has already been replaced, and replaces the occurrences in what follows. -/
def replaceFrom (pattern new : List Char) : Nat → List Char → List Char
  | _, [] => []
  | n + 1, _ :: cs => replaceFrom pattern new n cs
  | 0, c :: cs =>
    if pattern.isPrefixOf (c :: cs) then new ++ replaceFrom pattern new (pattern.length - 1) cs
    else c :: replaceFrom pattern new 0 cs

/-- Every occurrence of a non-empty `pattern`, leftmost first, becomes `new`. -/
def replaceAll (pattern new s : List Char) : List Char :=
  replaceFrom pattern new 0 s

end Phrasebook.Text
