import Phrasebook.EventFilter.Directive

/-!
## Event filters

A filter is written as directives between commas.  Of the directives that speak of an event the most
specific counts.  Besides, an event inside a span is shown if a directive for such spans lets it
pass.

* `EventFilter.parse?` reads a filter, and `EventFilter.ofText` takes warnings for one that cannot
  be read.
* `EventFilter.enables` decides about an event, and `EventFilter.enablesSpan` about a span.
* `EventFilter.display` writes a filter, most specific directives first.
-/

namespace Phrasebook

open Phrasebook.Text

/-- A filter, with the more specific directives before the others.  A directive that asks for a
field but not for a span is in both lists, unless it asks for what the field holds. -/
structure EventFilter where
  /-- The directives that hold everywhere. -/
  plain : List Directive
  /-- The directives that hold in spans. -/
  inSpans : List Directive

namespace EventFilter

/-- The directives with one more at its place; it replaces one that speaks of the same. -/
def place (d : Directive) : List Directive → List Directive
  | [] => [d]
  | e :: rest =>
    match d.compare e with
    | .eq => d :: rest
    | .gt => d :: e :: rest
    | .lt => e :: place d rest

/-- The filter of directives; a later one replaces an earlier one that speaks of the same. -/
def ofDirectives (ds : List Directive) : EventFilter :=
  let inSpans := ds.filter Directive.isScoped
  let others := ds.filter fun d => !d.isScoped
  let gather (ds : List Directive) := ds.foldl (fun acc d => place d acc) []
  ⟨gather (others ++ inSpans.filter Directive.isPlain), gather inSpans⟩

/-- The filter that lets warnings and errors pass. -/
def warnings : EventFilter :=
  ofDirectives [⟨none, none, none, some .warn⟩]

/-- Reads a filter. -/
def parse? (text : String) : Option EventFilter :=
  let words := (splitAt ',' text.toList).filter fun word => !word.isEmpty
  (words.mapM Directive.parse?).map ofDirectives

/-- The filter that a text describes; one that cannot be read lets warnings and errors pass. -/
def ofText (text : String) : EventFilter :=
  (parse? text).getD warnings

/-! ### Decisions -/

/-- Down to which level events are shown because they are in a span. -/
def spanThreshold (f : EventFilter) (s : Span) : Threshold :=
  ((f.inSpans.filter fun d => d.coversSpan s && d.accepts s).map Directive.threshold).foldl
    Threshold.greater none

/-- Whether a span is told apart: if a directive speaks of such spans, or else by its level. -/
def enablesSpan (f : EventFilter) (s : Span) : Bool :=
  f.inSpans.any (·.coversSpan s) ||
    match f.plain.find? (·.covers s.target) with
    | some d => d.threshold.admits s.level
    | none => false

/-- Whether an event is shown. -/
def enables (f : EventFilter) (e : Event) : Bool :=
  (match e.span with
    | some s => (f.spanThreshold s).admits e.level
    | none => false) ||
  match f.plain.find? (·.coversEvent e) with
  | some d => d.threshold.admits e.level
  | none => false

/-- A filter as it is written. -/
def display (f : EventFilter) : String :=
  ",".intercalate ((f.plain ++ f.inSpans).map Directive.display)

end EventFilter

end Phrasebook
