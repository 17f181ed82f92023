import Phrasebook.Yaml.Cursor

/-!
## Scalars

A scalar is a text, possibly over several lines, in one of four styles.  In three of them line
breaks are folded: a single one becomes a space, and of several the first is left out.

* `foldGap` is what a gap between two words of a folded scalar becomes.
-/

namespace Phrasebook.Yaml

/-- How a scalar is written. -/
inductive Style where
  /-- As it is, without quotes. -/
  | plain
  /-- Between single or double quotes. -/
  | quoted
  /-- On lines of its own, with their breaks. -/
  | literal
  /-- On lines of its own that are folded. -/
  | folded
  deriving DecidableEq, Repr

/-- What a gap between two words becomes: blanks around line breaks are dropped, and the breaks are
folded.  A separator of Unicode is no break that folding replaces. -/
def foldGap (gap : List Char) : List Char :=
  match gap.filter isBreak with
  | [] => gap
  | '\n' :: [] => [' ']
  | '\n' :: more => more
  | breaks => breaks

end Phrasebook.Yaml
