import Phrasebook.EventFilter.Basic
import Phrasebook.Failure
import Phrasebook.Json.Printer
import Phrasebook.Text.Split

/-!
## Logging

How the events of a run are written: which of them, and in what form.  A process has one logging at
most, from when it is installed on.

* `Logging.lines` gives the lines for events.
* `Logging.install` installs a logging, if there is none yet.
-/

namespace Phrasebook

open Phrasebook.Text

/-- A way of logging. -/
structure Logging where
  /-- The filter for events. -/
  level : String
  /-- Whether an event is written as a JSON object. -/
  json : Bool
  /-- Whether an event that is not written as JSON may take several lines. -/
  pretty : Bool
  /-- Whether the part of the program that an event comes from is written. -/
  targets : Bool
  deriving DecidableEq, Repr

/-- A line on the error output. -/
inductive ErrorLine where
  /-- A line of text. -/
  | text (line : String)
  /-- A JSON object with named values. -/
  | object (level : Level) (message : String) (target : Option String) (span : Option Span)
  deriving DecidableEq, Repr

namespace ErrorLine

/-- The lines of a text. -/
def ofText (text : String) : List ErrorLine :=
  (splitAt '\n' text.toList).map fun line => .text (String.ofList line)

/-- A span as a document. -/
def spanDocument (s : Span) : Document :=
  .table (s.fields.map (fun (name, value) => (name, .text value)) ++ [("name", .text s.name)])

/-- The entries of a line for the span that an event is in.  The list is of all spans around the
event, the outermost first. -/
def spanEntries : Option Span → List (String × Document)
  | some s => [("span", spanDocument s), ("spans", .list [spanDocument s])]
  | none => []

/-- A line as a document. -/
def toDocument : ErrorLine → Document
  | .text line => .text line
  | .object level message target span =>
    .table ([("level", .text level.name), ("fields", .table [("message", .text message)])] ++
      (target.map fun target => ("target", Document.text target)).toList ++ spanEntries span)

/-- A line as it is written. -/
def render : ErrorLine → String
  | .text line => line
  | line => Json.print line.toDocument

end ErrorLine

namespace Logging

/-- Warnings and errors, as text, each with the part of the program that it comes from. -/
def initial : Logging :=
  ⟨"warn", false, false, true⟩

/-- The filter that the level describes. -/
def filter (l : Logging) : EventFilter :=
  EventFilter.ofText l.level

/-- A character of a message.  Those that a terminal would follow are written as escapes. -/
def showChar (c : Char) : List Char :=
  let n := c.toNat
  if n = 0x1B || n = 0x07 || n = 0x08 || n = 0x0C || n = 0x7F then
    ['\\', 'x', Text.hexChar (n / 16), Text.hexChar (n % 16)]
  else if 0x80 ≤ n && n < 0xA0 then "\\u\x7b".toList ++ Text.hexadecimal n ++ ['\x7d']
  else [c]

/-- A message on a line of text. -/
def showMessage (message : String) : String :=
  String.ofList (message.toList.flatMap showChar)

/-- The lines of an event, with the span that it is in if that is told apart.  The form with several
lines is for events that carry more than a message, and these do not. -/
def eventLines (l : Logging) (e : Event) : List ErrorLine :=
  let span := e.span.filter l.filter.enablesSpan
  if l.json then [.object e.level e.message (if l.targets then some e.target else none) span]
  else
    let place := (span.map fun s => s.name ++ ": ").getD ""
    let source := if l.targets then e.target ++ ": " else ""
    let fields := ((span.map Span.fields).getD []).map fun (name, value) =>
      " " ++ name ++ "=" ++ value
    ErrorLine.ofText (e.level.name ++ " " ++ place ++ source ++ showMessage e.message ++
      String.join fields)

/-- The lines of the events that the filter lets pass. -/
def lines (l : Logging) (events : List Event) : List ErrorLine :=
  (events.filter l.filter.enables).flatMap l.eventLines

/-- Installs a logging in a process that has the logging `current`, if any. -/
def install (l : Logging) (current : Option Logging) : Except Failure Logging :=
  match current with
  | none => .ok l
  | some _ => .error (.generic "Failed to install tracing subscriber"
      (some (.condition "a global default trace dispatcher has already been set")))

end Logging

end Phrasebook
