import Linkage.Log.Filter
import Linkage.Text.Quoted

/-!
The lines of a log: the events of a trace that a filter shows, and the ends of the spans that it
follows.
-/

namespace Linkage

/-- An entry that is shown, with the spans around it, the innermost first. -/
structure LogLine where
  entry : TraceEntry
  spans : List TraceEntry
  deriving DecidableEq, Repr

def FieldValue.lineText : FieldValue → String
  | .text value => Text.quote value
  | .written form => form
  | .flag value => if value then "true" else "false"
  | .count value => Number.showNat value

namespace LogLine

def fieldsText (entry : TraceEntry) : String :=
  String.join (entry.values.map fun field => " " ++ field.1 ++ "=" ++ field.2.lineText)

def spansText (line : LogLine) : String :=
  String.join (line.spans.reverse.map (·.name ++ ":")) ++ if line.spans.isEmpty then "" else " "

/-- The level, the spans, the target and what happened; then the fields of the event and those of
the spans. -/
def text (line : LogLine) : String :=
  let head := line.entry.level.name ++ " " ++ line.spansText ++ line.entry.source.target ++ ": "
  let happened := match line.entry.form with
    | .event => line.entry.name ++ fieldsText line.entry
    | .span | .spanEnd => "close"
  head ++ happened ++ String.join (line.spans.map fieldsText)

end LogLine

structure OpenSpan where
  entry : TraceEntry
  followed : Bool
  detail : Nat

namespace LogFilter

def enter (filter : LogFilter) (spans : List OpenSpan) (span : TraceEntry) : OpenSpan :=
  let followed := filter.follows (spans.map OpenSpan.detail) span
  ⟨span, followed, if followed then filter.opened span else 0⟩

def linesFrom (filter : LogFilter) : List OpenSpan → List TraceEntry → List LogLine
  | _, [] => []
  | spans, entry :: rest =>
      let followed := (spans.filter OpenSpan.followed).map OpenSpan.entry
      match entry.form, spans with
      | .event, _ =>
          let line := if filter.shows (spans.map OpenSpan.detail) entry
            then [⟨entry, followed⟩] else []
          line ++ filter.linesFrom spans rest
      | .span, _ => filter.linesFrom (filter.enter spans entry :: spans) rest
      | .spanEnd, [] => filter.linesFrom [] rest
      | .spanEnd, span :: outer =>
          let line := if span.followed then [⟨entry, followed⟩] else []
          line ++ filter.linesFrom outer rest

def lines (filter : LogFilter) (trace : List TraceEntry) : List LogLine :=
  filter.linesFrom [] trace

end LogFilter

end Linkage
