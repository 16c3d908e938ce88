import Linkage.Command.Execute
import Linkage.Log.Line

/-!
The whole program as a function: from the words of its command line, the log filter of its
surroundings and the files it can read, to what it writes and its exit status.
-/

namespace Linkage

structure Diagnostics where
  complaints : List String
  log : List LogLine
  failure : Option Failure

inductive ProgramResult where
  | usage (fault : UsageFault)
  | ran (output : String) (diagnostics : Diagnostics)

def Diagnostics.texts (diagnostics : Diagnostics) : List String :=
  diagnostics.complaints ++ diagnostics.log.map LogLine.text
    ++ (diagnostics.failure.map Failure.report).toList

namespace ProgramResult

def exitCode : ProgramResult → Nat
  | .usage .help | .usage .version => 0
  | .usage _ => 2
  | .ran _ diagnostics => (diagnostics.failure.map Failure.exitCode).getD 0

def versionLine : String := "wasm-link 0.1.0"

end ProgramResult

/-- Runs the program. A filter that is not given is as an empty one. -/
def runProgram (files : FileSystem) (filter : Option String) (words : List String)
    (engine : Engine := .interpreter) : ProgramResult :=
  match Invocation.read words with
  | .error fault => .usage fault
  | .ok invocation =>
      let report := invocation.request.report files engine
      let filterText := filter.getD ""
      let chosen := LogFilter.choose filterText invocation.verbose invocation.quiet
      .ran report.output
        ⟨LogFilter.complaints filterText, chosen.lines report.trace, report.failure⟩

end Linkage
