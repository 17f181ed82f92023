import Phrasebook.CommandLine.Usage

/-!
## Grammars of command lines

A command line is a sequence of words: options with their values, words that are known by their
position, and possibly the name of a command, which has a grammar of its own for what follows it.

An option is *settled* when its value is taken.  A value that is attached to its option is taken at
once; one that is a word of its own is taken when the next option or word comes, or at the end.  So
a word that fits nowhere is reported before a bad value right before it.

* `Grammar.parse` reads words up to the end or up to the name of a command.
-/

namespace Phrasebook.CommandLine

open Phrasebook.Text

/-- What an option or a word does with its value, in a grammar that gathers an `α`. -/
abbrev Taker (α : Type) := String → α → Except UsageFault α

/-- What an option is for. -/
inductive Purpose (α : Type) where
  /-- It ends the reading, as an option that asks for help does. -/
  | stop (fault : UsageFault)
  /-- It takes a value. -/
  | value (take : Taker α)

/-- An option: two dashes and a name, or one dash and a letter if it has one. -/
structure Flag (α : Type) where
  letter : Option Char
  name : String
  purpose : Purpose α

/-- A word that is known by its position. -/
structure Positional (α : Type) where
  take : Taker α
  /-- Whether it may be a number with a minus sign. -/
  negative : Bool

/-- The words that a command line may have. -/
structure Grammar (α : Type) where
  flags : List (Flag α)
  positionals : List (Positional α)
  /-- The names of commands. -/
  commands : List String

/-- An option or word whose value has not been taken yet; it may still have to come. -/
structure Pending (α : Type) where
  take : Taker α
  value : Option String

/-- What has been read. -/
structure Progress (α : Type) where
  gathered : α
  pending : Option (Pending α)
  /-- The positions that have not been filled. -/
  left : List (Positional α)
  /-- Whether there was an option that takes a value. -/
  used : Bool
  /-- Whether two dashes alone have ended the options. -/
  ended : Bool

namespace Progress

variable {α : Type}

/-- Whether the next word is the value of an option. -/
def awaits (p : Progress α) : Bool :=
  match p.pending with
  | some pending => pending.value.isNone
  | none => false

/-- Takes the value that has not been taken yet, if there is one. -/
def settle (p : Progress α) : Except UsageFault (Progress α) :=
  match p.pending with
  | none => .ok p
  | some pending =>
    match pending.value with
    | none => .error .missingValue
    | some value => do
      let gathered ← pending.take value p.gathered
      return { p with gathered := gathered, pending := none }

end Progress

/-- Whether a text is a number: digits, with at most one point, which is not at the start, and at
most one exponent. -/
def isNumber (s : List Char) : Bool :=
  let marksExponent (c : Char) : Bool := c = 'e' || c = 'E'
  let (base, rest) := s.span fun c => !marksExponent c
  let exponent := rest.drop 1
  let digits := match cut? '.' base with
    | some (whole, fraction) => if whole.isEmpty then ['.'] else whole ++ fraction
    | none => base
  digits.all isDigit &&
    (rest.isEmpty || (!base.isEmpty && !exponent.isEmpty && exponent.all isDigit))

namespace Grammar

variable {α : Type} (g : Grammar α)

/-- An option is there, with its value if it is attached. -/
def enterFlag (flag : Flag α) (attached : Option String) (p : Progress α) :
    Except UsageFault (Progress α) :=
  match flag.purpose, attached with
  | .stop fault, none => do
    let _ ← p.settle
    .error fault
  | .stop _, some _ => .error .unwantedValue
  | .value take, some value => do
    let p ← p.settle
    return { p with gathered := ← take value p.gathered, used := true }
  | .value take, none => do
    let p ← p.settle
    return { p with pending := some ⟨take, none⟩, used := true }

/-- A word begins with two dashes. -/
def enterLong (body : List Char) (p : Progress α) : Except UsageFault (Progress α) :=
  let (name, attached) := match cut? '=' body with
    | some (name, value) => (name, some (String.ofList value))
    | none => (body, none)
  match g.flags.find? fun flag => flag.name = String.ofList name with
  | some flag => enterFlag flag attached p
  | none => .error .unknownArgument

/-- A word begins with one dash and a letter. -/
def enterShort (letter : Char) (body : List Char) (p : Progress α) :
    Except UsageFault (Progress α) :=
  match g.flags.find? fun flag => flag.letter = some letter with
  | none => .error .unknownArgument
  | some flag =>
    match flag.purpose with
    | .value _ =>
      match body with
      | [] => enterFlag flag none p
      -- An equals sign before an attached value is left out.
      | '=' :: value => enterFlag flag (some (String.ofList value)) p
      | value => enterFlag flag (some (String.ofList value)) p
    | .stop _ => enterFlag flag none p

/-- A word stands where it is known by its position. -/
def enterPositional (word : String) (p : Progress α) : Except UsageFault (Progress α) :=
  match p.left with
  | position :: left => do
    let p ← p.settle
    return { p with pending := some ⟨position.take, some word⟩, left := left }
  | [] =>
    if g.commands.isEmpty || (p.ended && g.commands.contains word) then .error .unknownArgument
    else .error .unknownCommand

/-- A word is the value of an option, or is known by its position. -/
def enterValue (word : String) (p : Progress α) : Except UsageFault (Progress α) :=
  match p.pending with
  | some pending =>
    if pending.value.isNone then .ok { p with pending := some ⟨pending.take, some word⟩ }
    else g.enterPositional word p
  | none => g.enterPositional word p

/-- A word is there that is not the name of a command. -/
def enter (word : String) (p : Progress α) : Except UsageFault (Progress α) :=
  if p.ended then g.enterPositional word p
  else match word.toList with
    | ['-', '-'] => .ok { p with ended := true }
    | '-' :: '-' :: body => g.enterLong body p
    | '-' :: letter :: body =>
      -- A negative number is no option where a number may stand.
      if p.left.head?.any (·.negative) && isNumber (letter :: body) then g.enterValue word p
      else g.enterShort letter body p
    | _ => g.enterValue word p

/-- Reads words up to the name of a command.  It gives what it has read, and the name with the words
behind it. -/
def parseWords : List String → Progress α →
    Except UsageFault (Progress α × Option (String × List String))
  | [], p => .ok (p, none)
  | word :: rest, p =>
    if !p.ended && !p.awaits && g.commands.contains word then .ok (p, some (word, rest))
    else match g.enter word p with
      | .ok p => parseWords rest p
      | .error fault => .error fault

/-- Reads words up to the name of a command, from the start. -/
def parse (initial : α) (words : List String) :
    Except UsageFault (Progress α × Option (String × List String)) :=
  g.parseWords words ⟨initial, none, g.positionals, false, false⟩

end Grammar

end Phrasebook.CommandLine
