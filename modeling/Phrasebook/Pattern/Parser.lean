import Phrasebook.Entries
import Phrasebook.Pattern.Basic
import Phrasebook.Text.Blank
import Phrasebook.Text.Decimal

/-!
## Reading patterns

The notation of patterns: a character stands for itself unless it has a meaning of its own, a dot
for any character but a line feed, brackets for one character of a set, a bar for a choice, and
`*`, `+` and `?` behind a piece for its repetition.  Parentheses group; behind `(?` stand flags for
the rest of a group.

Sets are those of ASCII: the escapes for digits, blanks and letters, the classes of letters by
their properties, words of other alphabets and the disregard of case are read only where the flag
`u` is off, and there no set may have characters beyond ASCII.

* `Pattern.parse?` reads a pattern.
-/

namespace Phrasebook.Pattern

open Phrasebook.Text

/-! ### Flags -/

/-- How a part of a pattern is read. -/
structure Flags where
  /-- `i`: the case of letters does not matter. -/
  foldCase : Bool
  /-- `m`: the signs for start and end stand for those of lines. -/
  multiLine : Bool
  /-- `s`: the dot stands for a line feed too. -/
  dotAll : Bool
  /-- `U`: repetitions are rather short, and rather often with a question mark. -/
  swapGreed : Bool
  /-- `R`: a line may end with a carriage return. -/
  returns : Bool
  /-- `x`: blanks and comments do not count. -/
  spaced : Bool
  /-- `u`: characters are those of Unicode. -/
  unicode : Bool

/-- The flags at the start. -/
def Flags.initial : Flags :=
  ⟨false, false, false, false, false, false, true⟩

/-- The flags with one of them switched. -/
def Flags.switch? (f : Flags) (on : Bool) : Char → Option Flags
  | 'i' => some { f with foldCase := on }
  | 'm' => some { f with multiLine := on }
  | 's' => some { f with dotAll := on }
  | 'U' => some { f with swapGreed := on }
  | 'R' => some { f with returns := on }
  | 'x' => some { f with spaced := on }
  | 'u' => some { f with unicode := on }
  | _ => none

/-- The flags that letters switch, up to a colon or the end of the group, with that sign and the
rest.  No letter stands twice; behind a minus sign flags are switched off. -/
def readFlags? : List Char → Option Bool → Bool → Flags → List Char →
    Option (Flags × Char × List Char)
  | seen, minus, pending, f, c :: rest =>
    if c == ':' || c == ')' then
      if pending || (c == ')' && seen.isEmpty && minus.isNone) then none else some (f, c, rest)
    else if c == '-' then
      if minus.isSome then none else readFlags? seen (some true) true f rest
    else if seen.contains c then none
    else match f.switch? minus.isNone c with
      | some f => readFlags? (c :: seen) minus false f rest
      | none => none
  | _, _, _, _, [] => none

/-- Leaves out blanks, and comments that start with a number sign, if they do not count. -/
def skip (f : Flags) (s : List Char) : List Char :=
  if f.spaced then go false s else s
where
  go : Bool → List Char → List Char
    | _, [] => []
    | true, c :: rest => go (c != '\n') rest
    | false, c :: rest =>
      if isBlank c then go false rest else if c == '#' then go true rest else c :: rest

/-! ### Escapes -/

/-- What an escape stands for. -/
inductive Escape where
  | char (c : Char)
  /-- A byte that is no ASCII character. -/
  | byte (n : Nat)
  | set (a : CharSet)
  | look (a : Assertion)

/-- The digits. -/
def digitSet : CharSet :=
  .ofRanges [('0', '9')]

/-- The blanks. -/
def blankSet : CharSet :=
  .ofRanges [('\t', '\r'), (' ', ' ')]

/-- The characters of words. -/
def wordSet : CharSet :=
  .ofRanges [('0', '9'), ('A', 'Z'), ('a', 'z'), ('_', '_')]

/-- The character of a code point that is written with hexadecimal digits. -/
def readCode? (f : Flags) (size : Nat) (s : List Char) : Option (Escape × List Char) := do
  let digits := s.take size
  if digits.length < size then none
  let n ← hexNumber? digits
  if n ≥ 0x110000 || (0xD800 ≤ n && n < 0xE000) then none
  let e := if !f.unicode && size = 2 && 0x80 ≤ n then Escape.byte n else .char (Char.ofNat n)
  return (e, s.drop size)

/-- The escape behind a backslash, and the rest. -/
def readEscape? (f : Flags) : List Char → Option (Escape × List Char)
  | [] => none
  | c :: rest =>
    let ofSet (a : CharSet) : Option (Escape × List Char) :=
      if f.unicode then none else some (.set a, rest)
    let ofEdge (a : Assertion) : Option (Escape × List Char) :=
      if f.unicode then none else some (.look a, rest)
    match c with
    | 'x' => readCode? f 2 rest
    | 'u' => readCode? f 4 rest
    | 'U' => readCode? f 8 rest
    | 'd' => ofSet digitSet
    | 's' => ofSet blankSet
    | 'w' => ofSet wordSet
    | 'a' => some (.char '\x07', rest)
    | 'f' => some (.char '\x0c', rest)
    | 't' => some (.char '\t', rest)
    | 'n' => some (.char '\n', rest)
    | 'r' => some (.char '\r', rest)
    | 'v' => some (.char '\x0b', rest)
    | 'A' => some (.look .textStart, rest)
    | 'z' => some (.look .textEnd, rest)
    | 'b' => if rest.head? == some '\x7b' then none else ofEdge .wordEdge
    | 'B' => ofEdge .noWordEdge
    | '<' => ofEdge .wordStart
    | '>' => ofEdge .wordEnd
    | c => if c.toNat < 0x80 && !c.isAlphanum then some (.char c, rest) else none

/-! ### Sets in brackets -/

/-- The sets of ASCII that have names. -/
def namedSets : List (String × CharSet) :=
  [("alnum", .ofRanges [('0', '9'), ('A', 'Z'), ('a', 'z')]),
   ("alpha", .ofRanges [('A', 'Z'), ('a', 'z')]),
   ("ascii", .ofRanges [('\x00', '\x7f')]),
   ("blank", .ofRanges [('\t', '\t'), (' ', ' ')]),
   ("cntrl", .ofRanges [('\x00', '\x1f'), ('\x7f', '\x7f')]),
   ("digit", digitSet),
   ("graph", .ofRanges [('!', '~')]),
   ("lower", .ofRanges [('a', 'z')]),
   ("print", .ofRanges [(' ', '~')]),
   ("punct", .ofRanges [('!', '/'), (':', '@'), ('[', '\x60'), ('\x7b', '~')]),
   ("space", blankSet),
   ("upper", .ofRanges [('A', 'Z')]),
   ("word", wordSet),
   ("xdigit", .ofRanges [('0', '9'), ('A', 'F'), ('a', 'f')])]

/-- The set with a name between colons, behind a bracket. -/
def readNamed? (s : List Char) : Option (CharSet × List Char) :=
  match s with
  | ':' :: rest =>
    let (negated, rest) := match rest with
      | '^' :: rest => (true, rest)
      | rest => (false, rest)
    match rest.dropWhile (· != ':') with
    | ':' :: ']' :: after =>
      (Entries.find? (String.ofList (rest.takeWhile (· != ':'))) namedSets).map fun a =>
        (if negated then a.compl else a, after)
    | _ => none
  | _ => none

/-- One character of a set in brackets, or a set that an escape stands for. -/
def readMember? (f : Flags) : List Char → Option (Escape × List Char)
  | [] => none
  | '\\' :: rest =>
    match readEscape? f rest with
    | some (.look _, _) => none
    | e => e
  | c :: rest => some (.char c, rest)

/-- The code point of a member that is one character.  Where characters are bytes it has to be
ASCII or a byte. -/
def codeOf? (f : Flags) : Escape → Option Nat
  | .char c => if f.unicode || c.toNat < 0x80 then some c.toNat else none
  | .byte n => some n
  | _ => none

/-- A range of characters in brackets, or one member. -/
def readRange? (f : Flags) (s : List Char) : Option (CharSet × List Char) := do
  let (first, rest) ← readMember? f s
  let rest := skip f rest
  let alone := match rest with
    | '-' :: after =>
      let next := (skip f after).head?
      next == some ']' || next == some '-'
    | _ => true
  if alone then
    match first with
    | .set a => return (a, rest)
    | e =>
      let n ← codeOf? f e
      return (.range n n, rest)
  else
    let (last, rest) ← readMember? f (skip f (rest.drop 1))
    let first ← codeOf? f first
    let last ← codeOf? f last
    if last < first then none
    return (.range first last, rest)

/-- How two sets in brackets are joined. -/
abbrev SetOp := CharSet → CharSet → CharSet

/-- A bracket that is open: whether its set is negated, what stands before the last sign of an
operation with that operation, and the members since. -/
structure Bracket where
  negated : Bool
  before : Option (CharSet × SetOp)
  members : CharSet

/-- The set of a bracket so far. -/
def Bracket.joined (b : Bracket) : CharSet :=
  match b.before with
  | some (a, op) => op a b.members
  | none => b.members

/-- The set of a bracket that is closed. -/
def Bracket.close (f : Flags) (b : Bracket) : CharSet :=
  let a := if f.foldCase then b.joined.foldCase else b.joined
  if b.negated then a.compl else a

/-- A bracket with one more set. -/
def Bracket.add (a : CharSet) (b : Bracket) : Bracket :=
  { b with members := b.members.union a }

/-- A bracket behind the sign of an operation. -/
def Bracket.operate (op : SetOp) (b : Bracket) : Bracket :=
  { b with before := some (b.joined, op), members := CharSet.none }

/-- Opens a bracket.  Minus signs in front, and a closing bracket right at the start, are members.
-/
def openBracket (f : Flags) (s : List Char) : Bracket × List Char :=
  let s := skip f s
  let (negated, s) := match s with
    | '^' :: rest => (true, skip f rest)
    | s => (false, s)
  let dashes := s.takeWhile (· == '-')
  let s := s.dropWhile (· == '-')
  if dashes.isEmpty then
    match s with
    | ']' :: rest => (⟨negated, none, .single ']'⟩, rest)
    | s => (⟨negated, none, CharSet.none⟩, s)
  else (⟨negated, none, .single '-'⟩, s)

/-- Reads on in brackets, the innermost first, up to the end of the outermost. -/
def readBrackets? (f : Flags) : Nat → List Bracket → List Char → Option (CharSet × List Char)
  | 0, _, _ => none
  | _, [], _ => none
  | fuel + 1, b :: outer, s =>
    match skip f s with
    | [] => none
    | '[' :: rest =>
      match readNamed? rest with
      | some (a, rest) => readBrackets? f fuel (b.add a :: outer) rest
      | none =>
        let (inner, rest) := openBracket f rest
        readBrackets? f fuel (inner :: b :: outer) rest
    | ']' :: rest =>
      match outer with
      | [] => some (b.close f, rest)
      | around :: outer => readBrackets? f fuel (around.add (b.close f) :: outer) rest
    | '&' :: '&' :: rest => readBrackets? f fuel (b.operate .inter :: outer) rest
    | '-' :: '-' :: rest => readBrackets? f fuel (b.operate .diff :: outer) rest
    | '~' :: '~' :: rest => readBrackets? f fuel (b.operate .symmDiff :: outer) rest
    | s =>
      match readRange? f s with
      | some (a, rest) => readBrackets? f fuel (b.add a :: outer) rest
      | none => none

/-- The set in brackets of which the first has been read, and the rest. -/
def readSet? (f : Flags) (s : List Char) : Option (CharSet × List Char) := do
  let (b, rest) := openBracket f s
  let (a, rest) ← readBrackets? f (s.length + 1) [b] rest
  if f.unicode && f.foldCase then none
  if !f.unicode && !a.isAscii then none
  return (a, rest)

/-! ### Pieces and groups -/

/-- The pattern for one character. -/
def literal? (f : Flags) (c : Char) : Option Pattern :=
  if !f.foldCase then some (.char (.single c))
  else if f.unicode then none
  else some (.char (CharSet.single c).foldCase)

/-- The pattern for any character. -/
def dot? (f : Flags) : Option Pattern :=
  if !f.unicode then none
  else if f.dotAll then some (.char CharSet.none.compl)
  else
    let ends := if f.returns then (CharSet.single '\n').union (.single '\r') else .single '\n'
    some (.char ends.compl)

/-- The pattern for an escape. -/
def ofEscape? (f : Flags) : Escape → Option Pattern
  | .char c => literal? f c
  | .byte _ => none
  | .set a => some (.char a)
  | .look a => some (.look a)

/-- The pattern for one piece that is no group, and the rest. -/
def readPiece? (f : Flags) : List Char → Option (Pattern × List Char)
  | [] => none
  | '.' :: rest => (dot? f).map fun p => (p, rest)
  | '^' :: rest =>
    some (.look (if f.multiLine then .lineStart f.returns else .textStart), rest)
  | '$' :: rest => some (.look (if f.multiLine then .lineEnd f.returns else .textEnd), rest)
  | '[' :: rest => (readSet? f rest).map fun (a, rest) => (.char a, rest)
  | '\\' :: rest => do
    match ← readEscape? f rest with
    | (.set a, after) =>
      return (.char a, after)
    | (e, after) =>
      return (← ofEscape? f e, after)
  -- A count of repetitions, which no pattern here has.
  | '\x7b' :: _ => none
  | c :: rest => (literal? f c).map fun p => (p, rest)

/-- A group that is open: the flags around it, its choices that are complete, last first, and the
pieces of the choice that is being read, last first.  A piece is missing where flags are switched;
nothing can be repeated there. -/
structure Group where
  around : Flags
  choices : List Pattern
  pieces : List (Option Pattern)

/-- The patterns of pieces one after the other. -/
def Group.joined (g : Group) : Pattern :=
  match g.pieces.filterMap id with
  | [] => .empty
  | last :: rest => rest.foldl (fun acc p => p.seq acc) last

/-- The pattern of a group that is closed. -/
def Group.close (g : Group) : Pattern :=
  g.choices.foldl (fun acc p => p.alt acc) g.joined

/-- Whether a name can be that of a group. -/
def isGroupName : List Char → Bool
  | [] => false
  | c :: rest =>
    let starts (c : Char) : Bool := c == '_' || c.isAlpha
    starts c && rest.all fun c => starts c || c.isDigit || ['.', '[', ']'].contains c

/-- The repetition of a piece that a sign stands for. -/
def repeated (sign : Char) (greedy : Bool) (p : Pattern) : Pattern :=
  match sign with
  | '*' => p.star greedy
  | '+' => p.seq (p.star greedy)
  | _ => if greedy then p.alt .empty else Pattern.empty.alt p

/-- What is being read: the flags in force, the names of groups so far, the innermost group, and
those around it. -/
structure Reading where
  flags : Flags
  names : List (List Char)
  group : Group
  outer : List Group

namespace Reading

/-- One more piece, or a place where flags are switched. -/
def add (p : Option Pattern) (r : Reading) : Reading :=
  { r with group := { r.group with pieces := p :: r.group.pieces } }

/-- Opens a group. -/
def enter (flags : Flags) (r : Reading) : Reading :=
  { r with flags := flags, group := ⟨r.flags, [], []⟩, outer := r.group :: r.outer }

/-- A parenthesis is opened: what is behind it, and the rest. -/
def openGroup? (r : Reading) (s : List Char) : Option (Reading × List Char) :=
  let named (s : List Char) : Option (Reading × List Char) :=
    let name := s.takeWhile (· != '>')
    match s.dropWhile (· != '>') with
    | [] => none
    | _ :: rest =>
      if isGroupName name && !r.names.contains name then
        some (({ r with names := name :: r.names } : Reading).enter r.flags, rest)
      else none
  match skip r.flags s with
  | '?' :: '<' :: rest =>
    if rest.head? == some '!' || rest.head? == some '=' then none else named rest
  | '?' :: 'P' :: '<' :: rest => named rest
  | '?' :: rest =>
    match readFlags? [] none false r.flags rest with
    | some (flags, ':', rest) => some (r.enter flags, rest)
    | some (flags, _, rest) => some ({ r.add none with flags := flags }, rest)
    | none => none
  | rest => some (r.enter r.flags, rest)

/-- A parenthesis is closed. -/
def closeGroup? (r : Reading) : Option Reading :=
  match r.outer with
  | [] => none
  | around :: outer =>
    some (({ r with flags := r.group.around, group := around, outer := outer } : Reading).add
      (some r.group.close))

/-- A choice is complete. -/
def choose (r : Reading) : Reading :=
  { r with group := { r.group with choices := r.group.joined :: r.group.choices, pieces := [] } }

/-- The last piece is repeated. -/
def repeat? (sign : Char) (short : Bool) (r : Reading) : Option Reading :=
  match r.group.pieces with
  | some p :: rest =>
    let p := repeated sign (short == r.flags.swapGreed) p
    some { r with group := { r.group with pieces := some p :: rest } }
  | _ => none

end Reading

/-- Reads on to the end of the text. -/
def readAll? : Nat → Reading → List Char → Option Pattern
  | 0, _, _ => none
  | fuel + 1, r, s =>
    match skip r.flags s with
    | [] => if r.outer.isEmpty then some r.group.close else none
    | '(' :: rest => (r.openGroup? rest).bind fun (r, rest) => readAll? fuel r rest
    | ')' :: rest => r.closeGroup?.bind fun r => readAll? fuel r rest
    | '|' :: rest => readAll? fuel r.choose rest
    | c :: rest =>
      if c == '*' || c == '+' || c == '?' then
        let short := rest.head? == some '?'
        (r.repeat? c short).bind fun r => readAll? fuel r (if short then rest.drop 1 else rest)
      else (readPiece? r.flags (c :: rest)).bind fun (p, rest) =>
        readAll? fuel (r.add (some p)) rest

/-- The pattern that a text writes, if it is one. -/
def parse? (s : List Char) : Option Pattern :=
  readAll? (s.length + 1) ⟨Flags.initial, [], ⟨Flags.initial, [], []⟩, []⟩ s

end Phrasebook.Pattern
