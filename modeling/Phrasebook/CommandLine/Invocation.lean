import Phrasebook.CommandLine.Grammar
import Phrasebook.Entries

/-!
## Invocations

What a command line asks of the program: options for the whole program, and one command with its own
arguments.

* `Invocation.parse` reads the words of a command line.
-/

namespace Phrasebook

open Phrasebook.CommandLine

/-- A command. -/
inductive Command where
  /-- Translate a key. -/
  | translate (key : String) (args : List (String × String))
  /-- Translate a key and choose the variant for a count. -/
  | choice (key : String) (count : Int64) (args : List (String × String))
  /-- Show the rules of a choice string. -/
  | rules (text : String)
  deriving DecidableEq, Repr

/-- The options for the whole program. -/
structure Options where
  /-- The configuration file. -/
  config : Option String
  /-- Files with catalogs, in order. -/
  catalogs : List CatalogFile
  /-- The locale to make active. -/
  locale : Option String
  /-- The fallback, instead of the configured one. -/
  fallback : Option String
  /-- The filter for events, instead of the configured one. -/
  logLevel : Option String
  deriving DecidableEq, Repr

/-- Options and a command. -/
structure Invocation where
  options : Options
  command : Command
  deriving DecidableEq, Repr

namespace CommandLine

/-- Takes a value that may be given once. -/
def takeOnce {α β : Type} (read : String → Except UsageFault β) (get : α → Option β)
    (set : β → α → α) : Taker α := fun value a =>
  if (get a).isSome then .error .repeatedOption
  else do return set (← read value) a

/-- Takes a value that may be given several times. -/
def takeEach {α β : Type} (read : String → Except UsageFault β) (add : β → α → α) : Taker α :=
  fun value a => do return add (← read value) a

/-- The option that asks for help. -/
def helpFlag {α : Type} (topic : Topic) : Flag α :=
  ⟨some 'h', "help", .stop (.help topic)⟩

/-! ### Options for the whole program -/

/-- The names of the commands with what help tells about them. -/
def commandTopics : List (String × Topic) :=
  [("translate", .translate), ("choice", .choice), ("rules", .rules), ("help", .help)]

/-- The grammar before the command. -/
def programGrammar : Grammar Options where
  flags :=
    [⟨some 'c', "config", .value
        (takeOnce parsePath Options.config fun v o => { o with config := some v })⟩,
      ⟨none, "catalog", .value
        (takeEach parseCatalogFile fun v o => { o with catalogs := o.catalogs ++ [v] })⟩,
      ⟨some 'l', "locale", .value
        (takeOnce .ok Options.locale fun v o => { o with locale := some v })⟩,
      ⟨none, "fallback", .value
        (takeOnce .ok Options.fallback fun v o => { o with fallback := some v })⟩,
      ⟨none, "log-level", .value
        (takeOnce .ok Options.logLevel fun v o => { o with logLevel := some v })⟩,
      helpFlag .program,
      ⟨some 'V', "version", .stop .version⟩]
  positionals := []
  commands := commandTopics.map Prod.fst

/-! ### Arguments of commands -/

/-- What has been read of the arguments of a command. -/
structure Arguments where
  text : Option String
  count : Option Int64
  args : List (String × String)

/-- The option that gives the value of a placeholder. -/
def argFlag : Flag Arguments :=
  ⟨some 'a', "arg", .value (takeEach parsePlaceholder fun v a => { a with args := a.args ++ [v] })⟩

/-- The key of a command, or its text. -/
def textPositional : Positional Arguments :=
  ⟨takeOnce .ok Arguments.text fun v a => { a with text := some v }, false⟩

/-- The count of a command. -/
def countPositional : Positional Arguments :=
  ⟨takeOnce parseCount Arguments.count fun v a => { a with count := some v }, true⟩

/-- The arguments that the grammar of a command finds in words. -/
def readArguments (g : Grammar Arguments) (words : List String) : Except UsageFault Arguments := do
  let (p, _) ← g.parse ⟨none, none, []⟩ words
  let p ← p.settle
  return p.gathered

/-- Reads the words behind the command that asks for help: one of them may name a command. -/
def readHelp (words : List String) : UsageFault :=
  match words with
  | [] => .help .program
  | [name] =>
    match Entries.find? name commandTopics with
    | some topic => .help topic
    | none => .unknownCommand
  | _ => .unknownCommand

/-- Reads the arguments of a command. -/
def readCommand (topic : Topic) (words : List String) : Except UsageFault Command :=
  match topic with
  | .translate => do
    let a ← readArguments ⟨[argFlag, helpFlag topic], [textPositional], []⟩ words
    match a.text with
    | some key => return .translate key a.args
    | none => .error .missingArgument
  | .choice => do
    let a ← readArguments ⟨[argFlag, helpFlag topic], [textPositional, countPositional], []⟩ words
    match a.text, a.count with
    | some key, some count => return .choice key count a.args
    | _, _ => .error .missingArgument
  | .rules => do
    let a ← readArguments ⟨[helpFlag topic], [textPositional], []⟩ words
    match a.text with
    | some text => return .rules text
    | none => .error .missingArgument
  | .help | .program => .error (readHelp words)

end CommandLine

/-- What the words of a command line ask for.  The command is read before the last option in front
of it is settled. -/
def Invocation.parse (words : List String) : Except UsageFault Invocation := do
  match ← programGrammar.parse ⟨none, [], none, none, none⟩ words with
  | (p, some (name, rest)) =>
    let command ← readCommand ((Entries.find? name commandTopics).getD .program) rest
    let p ← p.settle
    return ⟨p.gathered, command⟩
  | (p, none) =>
    let p ← p.settle
    .error (if p.used then .missingCommand else .nothing)

end Phrasebook
