import Phrasebook.App
import Phrasebook.CommandLine.Help

/-!
## The program

A run of the program takes the words of a command line to what is written and to an exit code.  What
a command gives goes to the output; events that the filter lets pass, and the report of an error,
go to the error output.

* `Report.render` writes an error with its causes.
* `Program.run` runs the program, and `Program.paths` lists the files that a run may read.
-/

namespace Phrasebook

/-! ### Error reports -/

namespace Report

/-- The lines of a text. -/
def lines (text : String) : List String :=
  (Text.splitAt '\n' text.toList).map String.ofList

/-- A text of several lines behind a margin; the lines after the first have a margin of blanks. -/
def indent (margin : String) (text : String) : List String :=
  match lines text with
  | [] => []
  | first :: rest =>
    let blank := String.ofList (List.replicate margin.length ' ')
    (margin ++ first) :: rest.map fun line => blank ++ line

/-- The margin of a cause that has a number. -/
def numbered (n : Nat) : String :=
  let digits := Text.decimal n
  String.ofList (List.replicate (5 - digits.length) ' ' ++ digits) ++ ": "

/-- The lines for the causes of an error.  A single cause has no number. -/
def causeLines : List String → List String
  | [] => []
  | [cause] => ["", "Caused by:"] ++ indent "    " cause
  | causes =>
    ["", "Caused by:"] ++ causes.zipIdx.flatMap fun (cause, n) => indent (numbered n) cause

/-- The lines of an error report. -/
def render (message : String) (causes : List String) : List String :=
  lines ("Error: " ++ message) ++ causeLines causes

end Report

/-! ### Runs -/

/-- What a run has written, and its exit code. -/
structure Result where
  exit : Nat
  output : String
  errors : List ErrorLine
  deriving DecidableEq, Repr

namespace Program

/-- The part of the program that speaks for the whole. -/
def target : String :=
  "polyglot"

/-- What is written for a command line that is not followed.  Help and version are no errors when
they are asked for. -/
def usageResult (fault : UsageFault) : Result :=
  match fault with
  | .help _ | .version => ⟨0, fault.message, []⟩
  | .nothing => ⟨2, "", (Report.lines fault.message).map .text⟩
  | _ =>
    let lines := Report.lines ("error: " ++ fault.message) ++ ["", "Usage: " ++ Topic.program.usage]
    ⟨2, "", lines.map .text⟩

/-- The configuration of an invocation. -/
def loadConfig (files : Files) (options : Options) : Except Failure Config :=
  match options.config with
  | none => .ok Config.initial
  | some path => Config.load files path

/-- How events are logged in an invocation. -/
def logging (options : Options) (config : Config) : Logging :=
  { config.logging.logging with level := options.logLevel.getD config.logging.level }

/-- The lines of an error report. -/
def reportLines (message : String) (causes : List String) : List ErrorLine :=
  (Report.render message causes).map .text

/-- What preparing without success reports. -/
def failureEvent (e : AppError) : Event :=
  .outside .error target ("Failed to prepare translator: " ++ e.message)

/-- Carries out an invocation whose configuration has been loaded. -/
def perform {σ : Type} (files : Files) (fetcher : Fetcher σ) (source : σ) (i : Invocation)
    (config : Config) : Result :=
  let log := (logging i.options config).lines
  match App.prepare files fetcher source i.options config with
  | (.error e, s) =>
    ⟨1, "", log (s.events ++ [failureEvent e]) ++ reportLines e.message e.causes⟩
  | (.ok (), s) =>
    let (output, s) := App.execute i.command s
    ⟨0, output ++ "\n", log s.events⟩

/-- Runs the program on the words of a command line. -/
def run {σ : Type} (files : Files) (fetcher : Fetcher σ) (source : σ) (words : List String) :
    Result :=
  match Invocation.parse words with
  | .error fault => usageResult fault
  | .ok i =>
    match loadConfig files i.options with
    | .error f =>
      let path := i.options.config.getD ""
      ⟨1, "", reportLines ("failed to load configuration from " ++ path) (f.message :: f.causes)⟩
    | .ok config => perform files fetcher source i config

/-- The paths of the files that a run may read. -/
def paths (words : List String) : List String :=
  match Invocation.parse words with
  | .error _ => []
  | .ok i => i.options.config.toList ++ i.options.catalogs.map (·.path)

end Program

end Phrasebook
