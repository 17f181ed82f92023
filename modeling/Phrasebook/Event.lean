/-!
## Events

What the program says about its work, besides its results.  An event has a level, the part of the
program that it comes from, and a message.  It may belong to a span of work, which has a name and
fields of its own.
-/

namespace Phrasebook

/-- How grave an event is. -/
inductive Level where
  | error
  | warn
  | info
  | debug
  | trace
  deriving DecidableEq, Repr

namespace Level

/-- The levels by rank: the graver, the lower. -/
def rank : Level → Nat
  | .error => 1
  | .warn => 2
  | .info => 3
  | .debug => 4
  | .trace => 5

/-- The name of a level in capitals. -/
def name : Level → String
  | .error => "ERROR"
  | .warn => "WARN"
  | .info => "INFO"
  | .debug => "DEBUG"
  | .trace => "TRACE"

end Level

/-- A span of work that is told apart in what is said about it. -/
structure Span where
  /-- How grave an event it is worth. -/
  level : Level
  /-- The part of the program that does the work. -/
  target : String
  /-- The name of the work. -/
  name : String
  /-- What is known about this piece of it, by name. -/
  fields : List (String × String)
  deriving DecidableEq, Repr

/-- A message from a part of the program. -/
structure Event where
  /-- How grave it is. -/
  level : Level
  /-- The part of the program that it comes from. -/
  target : String
  /-- What it says. -/
  message : String
  /-- The work that it belongs to. -/
  span : Option Span
  deriving DecidableEq, Repr

/-- An event outside all spans. -/
def Event.outside (level : Level) (target message : String) : Event :=
  ⟨level, target, message, none⟩

end Phrasebook
