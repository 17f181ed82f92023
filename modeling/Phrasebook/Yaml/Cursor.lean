/-!
## Places in a YAML text

In YAML the column of a place matters as much as what stands there.  A cursor is a place in a text
with its line and column, and the text from there on.

Every line of the text ends with a line feed, or with one of the two separators of Unicode;
`unifyBreaks` makes it so.

* `Cursor.next`, `Cursor.skip` and `Cursor.span` go on by one character, by several, and by all that
  satisfy a test.
* `Cursor.isMark` finds the marks between documents.
-/

namespace Phrasebook.Yaml

/-! ### Characters -/

/-- A text in which the other ways to end a line are line feeds too. -/
def unifyBreaks : List Char → List Char
  | [] => []
  | '\r' :: '\n' :: s => '\n' :: unifyBreaks s
  | c :: s => (if c == '\r' || c == '\x85' then '\n' else c) :: unifyBreaks s

/-- Whether a character may stand in a document at all. -/
def isAllowed (c : Char) : Bool :=
  c == '\t' || c == '\n' || (0x20 ≤ c.toNat && c.toNat ≤ 0x7E) ||
    (0xA0 ≤ c.toNat && c.toNat != 0xFFFE && c.toNat != 0xFFFF)

/-- Whether a character ends a line. -/
def isBreak (c : Char) : Bool :=
  c == '\n' || c == '\u2028' || c == '\u2029'

/-- Whether a character is a space or a tab. -/
def isSpace (c : Char) : Bool :=
  c == ' ' || c == '\t'

/-- Whether a character separates words. -/
def isGap (c : Char) : Bool :=
  isSpace c || isBreak c

/-- Whether a character may stand in a name. -/
def isNameChar (c : Char) : Bool :=
  c.isAlphanum || c == '_' || c == '-'

/-- Whether a character is one of those that structure lists and tables in brackets. -/
def isBracket (c : Char) : Bool :=
  c == ',' || c == '[' || c == ']' || c == '\x7b' || c == '\x7d'

/-! ### Cursors -/

/-- A place in a text. -/
structure Cursor where
  /-- The text from there on. -/
  rest : List Char
  line : Nat
  column : Nat

namespace Cursor

/-- The start of a text. -/
def start (s : List Char) : Cursor :=
  ⟨s, 0, 0⟩

/-- The place behind one character. -/
def next (cur : Cursor) : Cursor :=
  match cur.rest with
  | [] => cur
  | c :: s => if isBreak c then ⟨s, cur.line + 1, 0⟩ else ⟨s, cur.line, cur.column + 1⟩

/-- The place behind some number of characters. -/
def skip : Nat → Cursor → Cursor
  | 0, cur => cur
  | n + 1, cur => skip n cur.next

/-- The characters from here on that satisfy a test, and the place behind them. -/
def span (p : Char → Bool) (cur : Cursor) : List Char × Cursor :=
  let taken := cur.rest.takeWhile p
  (taken, cur.skip taken.length)

/-- The place behind all characters from here on that satisfy a test. -/
def skipWhile (p : Char → Bool) (cur : Cursor) : Cursor :=
  (cur.span p).2

/-- The place behind the blanks and the comment at the end of a line. -/
def skipComment (cur : Cursor) : Cursor :=
  let cur := cur.skipWhile isSpace
  if cur.rest.head? = some '#' then cur.skipWhile fun c => !isBreak c else cur

/-- Whether words are separated `n` characters further on: a gap is there, or the end. -/
def isGapAt (n : Nat) (cur : Cursor) : Bool :=
  (cur.rest.drop n).head?.all isGap

/-- Whether the line ends here. -/
def isAtBreak (cur : Cursor) : Bool :=
  cur.rest.head?.all isBreak

/-- Whether the mark of a document that consists of three times the character `c` stands here, at
the start of a line. -/
def isMark (c : Char) (cur : Cursor) : Bool :=
  cur.column = 0 && cur.rest.take 3 = [c, c, c] && cur.isGapAt 3

/-- Whether any mark of a document stands here. -/
def isAnyMark (cur : Cursor) : Bool :=
  cur.isMark '-' || cur.isMark '.'

end Cursor

end Phrasebook.Yaml
