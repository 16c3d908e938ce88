/-!
What happens while modules are linked, as entries of a trace. An entry is an event, or the start or
the end of a span, to which the entries between the two belong. Every entry has a level and comes
from one part of the program, which log filters know by its target name.
-/

namespace Linkage

/-- From the few entries that always matter to the many that only a close look needs. -/
inductive Level where
  | error
  | warn
  | info
  | debug
  | trace
  deriving DecidableEq, Repr

namespace Level

def name : Level → String
  | .error => "ERROR"
  | .warn => "WARN"
  | .info => "INFO"
  | .debug => "DEBUG"
  | .trace => "TRACE"

def detail : Level → Nat
  | .error => 1
  | .warn => 2
  | .info => 3
  | .debug => 4
  | .trace => 5

end Level

inductive TraceSource where
  | linker
  | manifest
  | runCommand
  deriving DecidableEq, Repr

def TraceSource.target : TraceSource → String
  | .linker => "wasmer_linker::linker"
  | .manifest => "wasmer_linker::manifest"
  | .runCommand => "wasmer_linker_cli::commands::run"

inductive FieldValue where
  | text (value : String)
  /-- The written form of something that is not a text itself. -/
  | written (form : String)
  | flag (value : Bool)
  | count (value : Nat)
  deriving DecidableEq, Repr

inductive TraceForm where
  | event
  | span
  | spanEnd
  deriving DecidableEq, Repr

structure TraceEntry where
  source : TraceSource
  level : Level
  form : TraceForm
  name : String
  /-- The declared fields. A field may be left without a value. -/
  fields : List (String × Option FieldValue)
  deriving DecidableEq, Repr

namespace TraceEntry

def ended (span : TraceEntry) : TraceEntry :=
  { span with form := .spanEnd }

/-- Runs an action inside a span. The span ends however the action ends. -/
def around {ε σ α : Type} (span : TraceEntry) (emit : TraceEntry → σ → σ)
    (action : EStateM ε σ α) : EStateM ε σ α := fun state =>
  match action (emit span state) with
  | .ok value after => .ok value (emit span.ended after)
  | .error error after => .error error (emit span.ended after)

def values (entry : TraceEntry) : List (String × FieldValue) :=
  entry.fields.filterMap fun field => field.2.map fun value => (field.1, value)

/-- Whether an entry has a field, with a value or without. The text of an event is its field
`message`. -/
def declares (entry : TraceEntry) (field : String) : Bool :=
  (entry.form = .event && field == "message") || entry.fields.any (·.1 == field)

end TraceEntry

end Linkage
