import Phrasebook.Yaml.Directive
import Phrasebook.Yaml.Scalar.Block
import Phrasebook.Yaml.Scalar.Plain
import Phrasebook.Yaml.Scalar.Quoted

/-!
## From lines and columns to tokens

Outside brackets, lists and tables are told apart by the columns in which their lines begin: a dash
or key further to the right opens one, and a line further to the left closes all that stand to the
right of it.  Whether something is a key is known only at the colon behind it.  A `Layout` is what
has to be known of the text before some place to say which tokens come next.

* `Layout.step` reads one token of the text, and `Layout.closeTo` closes what a line closes.
* `tokens?` gives the tokens of a text.
-/

namespace Phrasebook.Yaml

/-- A place where a key may have begun. -/
structure Candidate where
  /-- Whether it stands where only a key can stand. -/
  required : Bool
  /-- How many tokens come before it. -/
  position : Nat
  line : Nat
  column : Nat

/-- The greatest distance between the start of a key and its colon. -/
def keyLimit : Nat :=
  1024

/-- Whether something that begins at a place cannot be a key any more when reading has come to
another: a key stands on one line and is not too long. -/
def Candidate.isStale (k : Candidate) (cur : Cursor) : Bool :=
  k.line < cur.line || k.column + keyLimit < cur.column

/-- What is known of the text before a place. -/
structure Layout where
  /-- The columns of the open lists and tables outside brackets, innermost first. -/
  columns : List Nat
  /-- Where a key may have begun inside the innermost brackets. -/
  key : Option Candidate
  /-- The same for everything around these brackets, innermost first. -/
  outer : List (Option Candidate)
  /-- Whether a key may begin here. -/
  ready : Bool
  /-- The tokens so far, last first. -/
  tokens : List Token
  /-- How many they are. -/
  count : Nat

namespace Layout

/-- The layout before a text. -/
def initial : Layout :=
  ⟨[], none, [], true, [], 0⟩

/-- Whether the place is inside brackets. -/
def isFlow (st : Layout) : Bool :=
  !st.outer.isEmpty

/-- The least column in which a line belongs to the innermost open list or table. -/
def indent (st : Layout) : Nat :=
  match st.columns with
  | [] => 0
  | column :: _ => column + 1

/-- The layout behind one more token. -/
def emit (t : Token) (st : Layout) : Layout :=
  { st with tokens := t :: st.tokens, count := st.count + 1 }

/-- The layout with tokens put in where there were `position` tokens. -/
def insert (position : Nat) (ts : List Token) (st : Layout) : Layout :=
  let later := st.count - position
  { st with
    tokens := st.tokens.take later ++ ts.reverse ++ st.tokens.drop later
    count := st.count + ts.length }

/-- Whether something in a column opens a list or table: it stands to the right of all that are
open, outside brackets. -/
def opens (column : Nat) (st : Layout) : Bool :=
  !st.isFlow && st.indent ≤ column

/-- Opens a list or table in a column, unless it is open already. -/
def open? (column : Nat) (t : Token) (st : Layout) : Option Layout :=
  if st.isFlow then some st
  else if !st.ready then none
  else if st.opens column then some { st.emit t with columns := column :: st.columns }
  else some st

/-- Closes the lists and tables to the right of a column. -/
def closeTo (column : Nat) (st : Layout) : Layout :=
  if st.isFlow then st
  else
    let (closed, columns) := st.columns.span (column < ·)
    { st with
      columns
      tokens := List.replicate closed.length .close ++ st.tokens
      count := st.count + closed.length }

/-- Closes all lists and tables. -/
def closeAll (st : Layout) : Layout :=
  if st.isFlow then st
  else
    { st with
      columns := []
      tokens := List.replicate st.columns.length .close ++ st.tokens
      count := st.count + st.columns.length }

/-! ### Keys -/

/-- Gives up that something was a key; it must not have to be one. -/
def withoutKey (ready : Bool) (st : Layout) : Option Layout :=
  if st.key.any Candidate.required then none else some { st with key := none, ready }

/-- Notes that something begins here that may turn out to be a key. -/
def withKey (cur : Cursor) (st : Layout) : Option Layout :=
  if st.ready then do
    let required := !st.isFlow && st.columns.head? = some cur.column
    let st ← st.withoutKey false
    return { st with key := some ⟨required, st.count, cur.line, cur.column⟩ }
  else some st

/-- Gives up all keys that have become too long; they must not have to be keys. -/
def dropStale (cur : Cursor) (st : Layout) : Option Layout :=
  let stale (k : Option Candidate) : Bool := k.any (·.isStale cur)
  let fresh (k : Option Candidate) : Option Candidate := if stale k then none else k
  if !(stale st.key || st.outer.any stale) then some st
  else if (st.key :: st.outer).any fun k => stale k && k.any Candidate.required then none
  else some { st with key := fresh st.key, outer := st.outer.map fresh }

/-! ### Signs -/

/-- The layout behind an opening bracket. -/
def openFlow (t : Token) (cur : Cursor) (st : Layout) : Option Layout :=
  (st.withKey cur).map fun st =>
    { st.emit t with key := none, outer := st.key :: st.outer, ready := true }

/-- The layout behind a closing bracket. -/
def closeFlow (t : Token) (st : Layout) : Option Layout :=
  (st.withoutKey false).map fun st =>
    match st.outer with
    | [] => st.emit t
    | key :: outer => { st.emit t with key, outer }

/-- The layout behind the colon before a value. -/
def atColon (cur : Cursor) (st : Layout) : Option Layout :=
  match st.key with
  | some k =>
    let opened := st.opens k.column
    let st := st.insert k.position (if opened then [.openTable, .key] else [.key])
    some { st.emit .value with
      columns := if opened then k.column :: st.columns else st.columns
      key := none
      ready := false }
  | none => (st.open? cur.column .openTable).map fun st =>
      { st.emit .value with ready := !st.isFlow }

/-- The layout behind the sign before a key. -/
def atQuestion (cur : Cursor) (st : Layout) : Option Layout :=
  ((st.open? cur.column .openTable).bind (withoutKey (!st.isFlow))).map (emit .key)

/-- The layout behind the dash before an item. -/
def atDash (cur : Cursor) (st : Layout) : Option Layout :=
  ((st.open? cur.column .openList).bind (withoutKey true)).map (emit .dash)

/-- The layout behind something that ends all lists and tables. -/
def atEdge (st : Layout) : Option Layout :=
  st.closeAll.withoutKey false

/-! ### Tokens -/

/-- The name of an anchor behind its sign, and the place behind it. -/
def readAnchor (cur : Cursor) : Option (String × Cursor) :=
  let (name, cur) := cur.next.span isNameChar
  let ended := cur.rest.head?.all fun c =>
    isGap c || c == '?' || c == ':' || c == ',' || c == ']' || c == '\x7d' || c == '%' ||
      c == '@' || c.toNat == 0x60
  if name.isEmpty || !ended then none else some (String.ofList name, cur)

/-- Whether a scalar without quotes can begin with `c` here. -/
def startsPlain (flow : Bool) (c : Char) (cur : Cursor) : Bool :=
  match c with
  | '-' => !(cur.rest.drop 1).head?.any isSpace
  | '?' | ':' => !flow && !cur.isGapAt 1
  | _ =>
    !isGap c && !isBracket c && c != '#' && c != '&' && c != '*' && c != '!' && c != '|' &&
      c != '>' && c != '\'' && c != '"' && c != '%' && c != '@' && c.toNat != 0x60

/-- The layout and the place behind the token that begins here with the character `c`. -/
def step (st : Layout) (c : Char) (cur : Cursor) : Option (Layout × Cursor) :=
  let flow := st.isFlow
  -- A sign that is one character, and one that separates what stands before it from the next.
  let sign (st : Option Layout) : Option (Layout × Cursor) := st.map fun st => (st, cur.next)
  let apart := flow || cur.isGapAt 1
  if cur.column = 0 && c == '%' then do
    let st ← st.atEdge
    let (t, cur) ← readDirective cur
    return (st.emit t, cur)
  else if cur.isMark '-' then st.atEdge.map fun st => (st.emit .start, cur.skip 3)
  else if cur.isMark '.' then st.atEdge.map fun st => (st.emit .stop, cur.skip 3)
  else if c == '[' then sign (st.openFlow .openBracket cur)
  else if c == '\x7b' then sign (st.openFlow .openBrace cur)
  else if c == ']' then sign (st.closeFlow .closeBracket)
  else if c == '\x7d' then sign (st.closeFlow .closeBrace)
  else if c == ',' then sign ((st.withoutKey true).map (emit .comma))
  else if c == '-' && cur.isGapAt 1 then sign (st.atDash cur)
  else if c == '?' && apart then sign (st.atQuestion cur)
  else if c == ':' && apart then sign (st.atColon cur)
  else if (c == '|' || c == '>') && !flow then do
    let st ← st.withoutKey true
    let (text, cur) ← readBlock (c == '|') (max st.indent 1) cur
    return (st.emit (.scalar (if c == '|' then .literal else .folded) text), cur)
  else do
    -- What is left may be a key.
    let st ← st.withKey cur
    let st := { st with ready := false }
    if c == '*' || c == '&' then
      let (name, cur) ← readAnchor cur
      return (st.emit (if c == '*' then .alias name else .anchor name), cur)
    else if c == '!' then
      let (name, cur) ← readTagName flow cur
      return (st.emit (.tag name), cur)
    else if c == '\'' || c == '"' then
      let (text, cur) ← readQuoted c cur
      return (st.emit (.scalar .quoted text), cur)
    else if startsPlain flow c cur then
      let (text, fresh, cur) ← readPlain flow st.indent cur
      return ({ st.emit (.scalar .plain text) with ready := fresh }, cur)
    else none

/-- Passes over blanks, comments and line breaks: gives the place behind them, and whether a key may
begin there.  `comment` tells whether the place is inside a comment.  Outside brackets a new line
may begin with a key, and a tab must not stand where a key may begin.  A line may begin with a byte
order mark, which takes a column. -/
def skipGap (flow : Bool) : Bool → Bool → Cursor → List Char → Bool × Cursor
  | ready, _, cur, [] => (ready, cur)
  | ready, comment, cur, c :: s =>
    if isBreak c then skipGap flow (ready || !flow) false cur.next s
    else if comment || c == '#' then skipGap flow ready true cur.next s
    else if c == ' ' || (c == '\t' && (flow || !ready)) || (c == '\uFEFF' && cur.column = 0) then
      skipGap flow ready false cur.next s
    else (ready, cur)

/-- The tokens when a text has been read to its end. -/
def finish (st : Layout) : Option (List Token) :=
  st.atEdge.map fun st => st.tokens.reverse

/-- The tokens so far and those from here on. -/
def run : Nat → Layout → Cursor → Option (List Token)
  | 0, _, _ => none
  | fuel + 1, st, cur => do
    let (ready, cur) := skipGap st.isFlow st.ready false cur cur.rest
    let st ← { st with ready }.dropStale cur
    let st := st.closeTo cur.column
    match cur.rest with
    | [] => st.finish
    | c :: _ =>
      let (st, cur) ← st.step c cur
      run fuel st cur

end Layout

/-- The tokens of a text. -/
def tokens? (s : List Char) : Option (List Token) :=
  let s := unifyBreaks s
  if s.all isAllowed then Layout.run (s.length + 1) .initial (.start s) else none

end Phrasebook.Yaml
