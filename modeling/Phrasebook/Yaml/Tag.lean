import Phrasebook.Text.Decimal
import Phrasebook.Text.Utf8
import Phrasebook.Yaml.Cursor

/-!
## Tags

A tag says what kind of value a node is.  It is written in full in angle brackets, or shortened to a
handle that stands for its first part and the rest.  Any byte of it may be written with a percent
sign, so a tag is a sequence of bytes, and it ends before a byte of zero.

* `readTagName` reads a tag as it is written, and `TagName.resolve?` gives the tag that it means.
* `Tag.isLocal` holds of the tags that an application would have to define.
-/

namespace Phrasebook.Yaml

open Phrasebook.Text

/-- The bytes of a tag. -/
abbrev Tag := List UInt8

namespace Tag

/-- The tag that a text spells. -/
def ofText (s : String) : Tag :=
  Utf8.encode s.toList

/-- The first part of the tags that everyone knows. -/
def commonPart : String :=
  "tag:yaml.org,2002:"

/-- The tag of truth values. -/
def bool : Tag :=
  ofText (commonPart ++ "bool")

/-- The tag of integers. -/
def int : Tag :=
  ofText (commonPart ++ "int")

/-- The tag of numbers. -/
def float : Tag :=
  ofText (commonPart ++ "float")

/-- The tag of no value. -/
def null : Tag :=
  ofText (commonPart ++ "null")

/-- Whether a tag begins with an exclamation mark. -/
def isMarked (t : Tag) : Bool :=
  t.head? = some 0x21

/-- Whether a tag is one that an application would have to define. -/
def isLocal (t : Tag) : Bool :=
  t.isMarked && Utf8.encode (Utf8.decodeLossy t) = t

end Tag

/-! ### Names of tags -/

/-- A tag as it is written. -/
inductive TagName where
  /-- In full. -/
  | full (t : Tag)
  /-- As a handle and the rest. -/
  | short (handle : String) (rest : Tag)
  deriving DecidableEq, Repr

/-- The handles that every document knows. -/
def commonHandles : List (String × Tag) :=
  [("!", Tag.ofText "!"), ("!!", Tag.ofText Tag.commonPart)]

/-- The tag that a name means, with what the handles stand for. -/
def TagName.resolve? (handles : List (String × Tag)) : TagName → Option Tag
  | .full t => some t
  | .short handle rest => (handles.lookup handle).map (· ++ rest)

/-! ### Reading -/

/-- Whether a character may stand in a tag; commas and square brackets may in one that is written in
full. -/
def isTagChar (full : Bool) (c : Char) : Bool :=
  isNameChar c || c == ';' || c == '/' || c == '?' || c == ':' || c == '@' || c == '&' ||
    c == '=' || c == '+' || c == '$' || c == '.' || c == '%' || c == '!' || c == '~' ||
    c == '*' || c == '\'' || c == '(' || c == ')' ||
    (full && (c == ',' || c == '[' || c == ']'))

/-- The byte that is written with a percent sign here, and the place behind it. -/
def readByte (cur : Cursor) : Option (UInt8 × Cursor) :=
  match cur.rest with
  | '%' :: a :: b :: _ => do
    return (UInt8.ofNat (16 * (← hexValue? a) + (← hexValue? b)), cur.skip 3)
  | _ => none

/-- How many bytes follow the first one of a character. -/
def following? (b : UInt8) : Option Nat :=
  if b < 0x80 then some 0
  else if 0xC0 ≤ b && b < 0xE0 then some 1
  else if 0xE0 ≤ b && b < 0xF0 then some 2
  else if 0xF0 ≤ b && b < 0xF8 then some 3
  else none

/-- So many bytes that are not the first one of a character. -/
def readFollowing : Nat → Cursor → Option (List UInt8 × Cursor)
  | 0, cur => some ([], cur)
  | n + 1, cur => do
    let (b, cur) ← readByte cur
    if 0x80 ≤ b && b < 0xC0 then
      let (bytes, cur) ← readFollowing n cur
      return (b :: bytes, cur)
    else none

/-- The bytes of a tag from here on, and the place behind them. -/
def readTagBytes (full : Bool) : Nat → Cursor → Option (List UInt8 × Cursor)
  | 0, _ => none
  | fuel + 1, cur =>
    match cur.rest with
    | [] => some ([], cur)
    | c :: _ =>
      if !isTagChar full c then some ([], cur)
      else do
        let (bytes, cur) ←
          if c == '%' then do
            let (b, cur) ← readByte cur
            let (bytes, cur) ← readFollowing (← following? b) cur
            pure (b :: bytes, cur)
          else pure (String.utf8EncodeChar c, cur.next)
        let (more, cur) ← readTagBytes full fuel cur
        return (bytes ++ more, cur)

/-- The tag, or part of one, from here on, and the place behind it.  It ends before a byte of zero,
although reading goes on behind it. -/
def readTagPart (full : Bool) (cur : Cursor) : Option (Tag × Cursor) :=
  (readTagBytes full (cur.rest.length + 1) cur).map fun (bytes, cur) =>
    (bytes.takeWhile (· ≠ 0), cur)

/-- The tag, or part of one, from here on, as `readTagPart` reads it; something has to be there. -/
def readSomeTagPart (full : Bool) (cur : Cursor) : Option (Tag × Cursor) :=
  if cur.rest.head?.any (isTagChar full) then readTagPart full cur else none

/-- The exclamation mark and the name from here on, with an exclamation mark at its end if there is
one, and the place behind it. -/
def readHandle (cur : Cursor) : Option (List Char × Cursor) :=
  match cur.rest.head? with
  | some '!' =>
    let (name, cur) := cur.next.span isNameChar
    if cur.rest.head? = some '!' then some ('!' :: name ++ ['!'], cur.next)
    else some ('!' :: name, cur)
  | _ => none

/-- Whether what has been read in the place of a handle is one that is followed by the rest of a
tag. -/
def isNamedHandle (handle : List Char) : Bool :=
  handle.length ≠ 1 && handle.getLast? = some '!'

/-- The name of a tag that begins here, and the place behind it. -/
def readTagName (flow : Bool) (cur : Cursor) : Option (TagName × Cursor) := do
  let (name, cur) ←
    if cur.rest.take 2 = ['!', '<'] then do
      let (t, cur) ← readSomeTagPart true (cur.skip 2)
      if cur.rest.head? = some '>' then pure (TagName.full t, cur.next) else none
    else do
      let (handle, cur) ← readHandle cur
      if isNamedHandle handle then
        let (rest, cur) ← readSomeTagPart false cur
        pure (TagName.short (String.ofList handle) rest, cur)
      else
        -- It is no handle after all, but the tag behind the handle of one exclamation mark.
        let (rest, cur) ← readTagPart false cur
        match Utf8.encode (handle.drop 1) ++ rest with
        | [] => pure (TagName.full (Tag.ofText "!"), cur)
        | rest => pure (TagName.short "!" rest, cur)
  if cur.isGapAt 0 || (flow && cur.rest.head? = some ',') then return (name, cur) else none

end Phrasebook.Yaml
