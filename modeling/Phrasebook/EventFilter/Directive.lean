import Phrasebook.Event
import Phrasebook.EventFilter.Field
import Phrasebook.Text.Alphanumeric
import Phrasebook.Text.Blank

/-!
## Directives

A directive is one rule of a filter.  It is a level, or a target with or without a level behind an
equals sign; it says down to which level the events of the parts of the program whose names begin
with the target are shown.  A directive may also name a span of work in brackets, and a field in
braces inside them, and then it speaks of events inside such spans only.

* `Directive.parse?` reads a directive, and `Directive.display` writes it.
* `Directive.compare` orders directives, the more specific ones behind the others.
-/

namespace Phrasebook

open Phrasebook.Text

/-- The least grave level that is shown, if any is. -/
abbrev Threshold := Option Level

namespace Threshold

/-- The rank of a threshold; at zero nothing is shown. -/
def rank : Threshold → Nat
  | none => 0
  | some level => level.rank

/-- The name of a threshold. -/
def name : Threshold → String
  | none => "off"
  | some .error => "error"
  | some .warn => "warn"
  | some .info => "info"
  | some .debug => "debug"
  | some .trace => "trace"

/-- Whether an event or a span of a level is shown. -/
def admits (t : Threshold) (level : Level) : Bool :=
  level.rank ≤ t.rank

/-- The one of two thresholds that shows more. -/
def greater (t u : Threshold) : Threshold :=
  if t.rank < u.rank then u else t

/-- All thresholds by rank. -/
def all : List Threshold :=
  [none, some .error, some .warn, some .info, some .debug, some .trace]

/-- The threshold with a name in any case, or with a rank. -/
def parse? (s : List Char) : Option Threshold :=
  -- A rank may have a plus sign.
  let digits := match s with
    | '+' :: ds => ds
    | ds => ds
  if !digits.isEmpty && digits.all isDigit then all[digitsValue digits]?
  else if s.isEmpty then some (some .error)
  else all.find? fun t => t.name.toList = s.map Char.toLower

end Threshold

/-- A rule of a filter. -/
structure Directive where
  /-- What the name of a part of the program has to begin with. -/
  target : Option String
  /-- The name of the span in which an event has to be. -/
  span : Option String
  /-- What a field has to be. -/
  field : Option FieldTest
  /-- The least grave level that is shown. -/
  threshold : Threshold

namespace Directive

/-- Whether a directive can begin with a character, brackets apart. -/
def isStart (c : Char) : Bool :=
  isAlphanumeric c || c == '-' || c == ':' || c == '_'

/-- The directive of a word: a level, or a target of which everything is shown. -/
def ofWord (word : List Char) : Directive :=
  match Threshold.parse? word with
  | some threshold => ⟨none, none, none, threshold⟩
  | none => ⟨some (String.ofList word), none, none, some .trace⟩

/-- The level behind an equals sign; everything is shown if it is missing. -/
def readThreshold? (s : List Char) : Option Threshold :=
  if s.isEmpty then some (some .trace) else Threshold.parse? s

/-- The part of a text from one place up to another. -/
def piece (s : List Char) (first last : Nat) : List Char :=
  (s.drop first).take (last - first)

/-- The place of the first character from a place on that is one of those wanted, with that
character. -/
def nextPlace? (wanted : List Char) (t : List Char) (first : Nat) : Option (Nat × Char) :=
  match (t.drop first).dropWhile fun c => !wanted.contains c with
  | [] => none
  | c :: rest => some (t.length - rest.length - 1, c)

/-- The level from a place on, where nothing or an equals sign has to be. -/
def readEnd? (s t : List Char) (first : Nat) : Option Threshold :=
  match t.drop first with
  | [] => some (some .trace)
  | '=' :: _ => readThreshold? (s.drop (first + 1))
  | _ => none

/-- What stands in brackets about spans. -/
structure Scope where
  span : Option String
  field : Option FieldTest

/-- The scope and the level from a place on, which is behind the bracket that opens the scope. -/
def readScope? (s t : List Char) (first : Nat) : Option (Scope × Threshold) := do
  let (last, c) ← nextPlace? [']', '\x7b'] t first
  let name := piece s first last
  if c = ']' then return (⟨some (String.ofList name), none⟩, ← readEnd? s t (last + 1))
  let (stop, _) ← nextPlace? ['\x7d'] t (last + 1)
  let field := piece s (last + 1) stop
  -- The brace that closes the field has to stand right before the bracket that closes the scope.
  if field.isEmpty || t[stop + 1]? != some ']' then none
  let test ← FieldTest.parse? field
  return (⟨if name.isEmpty then none else some (String.ofList name), some test⟩,
    ← readEnd? s t (stop + 2))

/-- Reads a directive.  Its parts are found in the text without the blanks around it, but what they
say is taken from the same places of the whole text; so a text with blanks in front has nothing but
a target. -/
def parse? (s : List Char) : Option Directive :=
  let t := trim s
  let bracketed (target : Option String) (first : Nat) : Option Directive :=
    (readScope? s t first).map fun (scope, threshold) =>
      ⟨target, scope.span, scope.field, threshold⟩
  match t with
  | [] => none
  | '[' :: _ => bracketed none 1
  | c :: _ =>
    if !isStart c then none
    else match nextPlace? ['=', '['] t 0 with
      | none => some (ofWord s)
      | some (last, '=') =>
        (readEnd? s t last).map fun threshold =>
          ⟨some (String.ofList (piece s 0 last)), none, none, threshold⟩
      | some (last, _) => bracketed (some (String.ofList (piece s 0 last))) (last + 1)

/-- A directive as it is written. -/
def display (d : Directive) : String :=
  let field := match d.field with
    | some test => "\x7b" ++ test.display ++ "\x7d"
    | none => ""
  let scope := if d.span.isSome || d.field.isSome then "[" ++ d.span.getD "" ++ field ++ "]" else ""
  let place := d.target.getD "" ++ scope
  if d.target.isSome || d.span.isSome || d.field.isSome then place ++ "=" ++ d.threshold.name
  else d.threshold.name

/-! ### Specificity -/

/-- The number of bytes of a target; no target is less than the empty one. -/
def targetSize (d : Directive) : Nat :=
  match d.target with
  | some target => target.utf8ByteSize + 1
  | none => 0

/-- The order of texts that may be missing. -/
def compareNames (a b : Option String) : Ordering :=
  (Ord.compare a.isSome b.isSome).then (Ord.compare (a.getD "") (b.getD ""))

/-- The order of conditions that may be missing. -/
def compareFields : Option FieldTest → Option FieldTest → Ordering
  | some t, some u => t.compare u
  | t, u => Ord.compare t.isSome u.isSome

/-- The order of directives by what they speak of: by the length of the target, by whether there is
a span and a field, and then by what these are.  Directives that speak of the same are equal. -/
def compare (d e : Directive) : Ordering :=
  Ord.compare d.targetSize e.targetSize
    |>.then (Ord.compare d.span.isSome e.span.isSome)
    |>.then (Ord.compare d.field.isSome e.field.isSome)
    |>.then (compareNames d.target e.target)
    |>.then (compareNames d.span e.span)
    |>.then (compareFields d.field e.field)

/-! ### What a directive speaks of -/

/-- Whether a directive speaks of single spans: of those with a name or with something in a field.
-/
def isScoped (d : Directive) : Bool :=
  d.span.isSome || d.field.isSome

/-- Whether a directive holds everywhere, if only for events that have its field. -/
def isPlain (d : Directive) : Bool :=
  d.span.isNone && d.field.all fun test => test.value.isNone

/-- Whether a directive speaks of a part of the program. -/
def covers (d : Directive) (target : String) : Bool :=
  match d.target with
  | some start => start.toList.isPrefixOf target.toList
  | none => true

/-- The fields of events. -/
def eventFields : List String :=
  ["message"]

/-- Whether a directive that holds everywhere speaks of an event. -/
def coversEvent (d : Directive) (e : Event) : Bool :=
  d.covers e.target && d.field.all fun test => test.names eventFields

/-- Whether a directive speaks of spans with the name and the fields of this one. -/
def coversSpan (d : Directive) (s : Span) : Bool :=
  d.covers s.target && d.span.all (· = s.name) &&
    d.field.all fun test => test.names (s.fields.map Prod.fst)

/-- Whether a span has what a directive asks of its field. -/
def accepts (d : Directive) (s : Span) : Bool :=
  d.field.all fun test => test.accepts s.fields

end Directive

end Phrasebook
