import Linkage.Log.Directive

/-!
Log filters: lists of directives. Of the directives about an entry the most specific one decides
whether it is shown. A directive that names a span or a field also opens spans: inside an open
span everything is shown up to the directive's detail. A later directive replaces an earlier one
that asks for the same.
-/

namespace Linkage

structure LogFilter where
  directives : List Directive
  deriving DecidableEq, Repr

namespace Directive

def isAboutTarget (directive : Directive) (entry : TraceEntry) : Bool :=
  directive.target.toList.isPrefixOf entry.source.target.toList

def sameQuestion (first second : Directive) : Bool :=
  first.target == second.target && first.span == second.span && first.fields == second.fields

/-- A directive that asks for a span or for a value cannot be answered by an entry alone. -/
def judgesEntries (directive : Directive) : Bool :=
  directive.span.isNone && directive.fields.all (·.value.isNone)

def isAbout (directive : Directive) (entry : TraceEntry) : Bool :=
  directive.isAboutTarget entry
    && (entry.form ≠ .event || directive.fields.all fun test => entry.declares test.name)

def fieldCodes (directive : Directive) : List (List Nat) :=
  directive.fields.map fun test => test.name.toList.map Char.toNat

def codesBefore (first second : List Nat) : Bool :=
  List.lex first second Nat.blt

/-- Of two directives the one with the longer target is more specific, then the one with more
fields; else the names of the fields decide, the later in the order of names. -/
def lessSpecific (first second : Directive) : Bool :=
  let (a, b) := (first.target.length, second.target.length)
  let (m, n) := (first.fields.length, second.fields.length)
  a < b || (a == b && (m < n
    || (m == n && List.lex first.fieldCodes second.fieldCodes codesBefore)))

def opensSpans (directive : Directive) : Bool :=
  directive.span.isSome || !directive.fields.isEmpty

def looksAt (directive : Directive) (span : TraceEntry) : Bool :=
  directive.isAboutTarget span && directive.span.all (· == span.name)
    && directive.fields.all fun test => span.declares test.name

def isMetBy (directive : Directive) (span : TraceEntry) : Bool :=
  directive.fields.all fun test => match test.value with
    | none => true
    | some asked => (span.values.lookup test.name).any asked.fits

end Directive

namespace LogFilter

/-- The level of the flags: quiet wins, and each repetition of verbose adds detail. -/
def flagLevel (verbose : Nat) (quiet : Bool) : Level :=
  if quiet then .error else match verbose with
    | 0 => .warn
    | 1 => .info
    | 2 => .debug
    | _ => .trace

def splitCommas : List Char → List (List Char)
  | [] => [[]]
  | char :: rest =>
      if char = ',' then [] :: splitCommas rest
      else match splitCommas rest with
        | first :: more => (char :: first) :: more
        | [] => [[char]]

def readParts (text : String) : List (String × Except DirectiveFault Directive) :=
  ((splitCommas text.toList).filter (!·.isEmpty)).map fun part =>
    (String.ofList part, Directive.read part)

def complaints (text : String) : List String :=
  (readParts text).filterMap fun (part, reading) => match reading with
    | .ok _ => none
    | .error fault => some ("ignoring `" ++ part ++ "`: " ++ fault.message)

/-- The filter of a text, or of the flags if no part of the text is a directive. -/
def choose (text : String) (verbose : Nat) (quiet : Bool) : LogFilter :=
  match (readParts text).filterMap (·.2.toOption) with
  | [] => ⟨[.ofLevel (flagLevel verbose quiet).detail]⟩
  | directives => ⟨directives⟩

def latest : List Directive → List Directive
  | [] => []
  | directive :: rest =>
      if rest.any directive.sameQuestion then latest rest else directive :: latest rest

def judges (filter : LogFilter) : List Directive :=
  (latest filter.directives).filter (·.judgesEntries)

def openers (filter : LogFilter) : List Directive :=
  (latest filter.directives).filter (·.opensSpans)

def deciding? (filter : LogFilter) (entry : TraceEntry) : Option Directive :=
  (filter.judges.filter (·.isAbout entry)).foldl
    (fun best directive => match best with
      | some chosen => if directive.lessSpecific chosen then best else some directive
      | none => some directive) none

def shows (filter : LogFilter) (inside : List Nat) (entry : TraceEntry) : Bool :=
  (filter.deciding? entry).any (entry.level.detail ≤ ·.detail)
    || inside.any (entry.level.detail ≤ ·)

/-- The detail beyond which nothing is looked at. Whether a span has the values that a directive
asks for shows only once the span has started, so with such a directive nothing is beyond it. -/
def limit (filter : LogFilter) : Nat :=
  if filter.directives.any fun directive => directive.fields.any (·.value.isSome) then
    Level.trace.detail
  else (filter.directives.map (·.detail)).foldl Nat.max 0

/-- Whether a span is followed. A span that a directive looks at is, whatever the detail that the
directive gives. -/
def follows (filter : LogFilter) (inside : List Nat) (span : TraceEntry) : Bool :=
  span.level.detail ≤ filter.limit
    && (filter.openers.any (·.looksAt span) || filter.shows inside span)

def opened (filter : LogFilter) (span : TraceEntry) : Nat :=
  let met := filter.openers.filter fun directive => directive.looksAt span && directive.isMetBy span
  (met.map (·.detail)).foldl Nat.max 0

end LogFilter

end Linkage
