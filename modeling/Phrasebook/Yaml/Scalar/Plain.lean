import Phrasebook.Yaml.Scalar.Basic

/-!
## Scalars without quotes

A scalar without quotes is a sequence of words.  It ends before a comment, before a colon that makes
it a key, and before a line that stands too far to the left; inside brackets it also ends before a
bracket or comma, and its lines may stand anywhere.

* `readPlain` reads one.
-/

namespace Phrasebook.Yaml

/-- The word at the start of a text.  Inside brackets a colon must not stand between a word and a
bracket or comma. -/
def plainWord? (flow : Bool) : List Char → Option (List Char)
  | [] => some []
  | c :: s =>
    if isGap c || (flow && isBracket c) || (c == ':' && s.head?.all isGap) then some []
    else if flow && c == ':' && s.head?.any (fun d => isBracket d || d == '?') then none
    else (plainWord? flow s).map (c :: ·)

/-- Whether a gap has a tab to the left of some column, on any line but the first.  `column` is the
place in such a line. -/
def hasEarlyTab (indent : Nat) : Option Nat → List Char → Bool
  | _, [] => false
  | column, c :: s =>
    if isBreak c then hasEarlyTab indent (some 0) s
    else (c == '\t' && column.any (· < indent)) || hasEarlyTab indent (column.map (· + 1)) s

/-- Whether a scalar ends here, behind a gap. -/
def endsPlain (flow : Bool) (indent : Nat) (cur : Cursor) : Bool :=
  cur.isAnyMark || cur.rest.head? = some '#' || (!flow && cur.column < indent)

/-- The words from here on, whether the last gap before the place where they end has a line break,
and that place.  `fresh` tells the same of the gap before here. -/
def readPlainWords (flow : Bool) (indent : Nat) :
    Nat → Bool → Cursor → Option (List Char × Bool × Cursor)
  | 0, _, _ => none
  | fuel + 1, fresh, cur => do
    let word ← plainWord? flow cur.rest
    if word.isEmpty then return ([], fresh, cur)
    else
      let (gap, after) := (cur.skip word.length).span isGap
      let fresh := gap.any isBreak
      if hasEarlyTab indent none gap then none
      else if gap.isEmpty || endsPlain flow indent after then return (word, fresh, after)
      else
        let (more, fresh, cur) ← readPlainWords flow indent fuel fresh after
        return (if more.isEmpty then word else word ++ foldGap gap ++ more, fresh, cur)

/-- The scalar from here on, whether a line break follows it, and the place behind the gap that
follows it.  Lines after the first have to begin in the column `indent` or to the right of it. -/
def readPlain (flow : Bool) (indent : Nat) (cur : Cursor) : Option (String × Bool × Cursor) :=
  (readPlainWords flow indent (cur.rest.length + 1) false cur).map fun (text, fresh, cur) =>
    (String.ofList text, fresh, cur)

end Phrasebook.Yaml
