import Linkage.Command.Invoke
import Linkage.Command.Words
import Linkage.Linker.StandIn
import Linkage.Manifest.Apply

/-!
The three commands. Each works on a fresh store and linker and puts a context that names its file
around every failure.
-/

namespace Linkage

namespace Shell

def load (files : FileSystem) (path : String) : ShellAction Module :=
  Shell.link .manifest (Manifest.settle (files.load path))

def preload (files : FileSystem) (preload : Preload) : ShellAction Unit := do
  let m ← load files preload.path
  let _ ← within ("failed to preload `" ++ preload.path ++ "`")
    (Shell.link .instantiation (Linker.register preload.name m))

def emit (entry : TraceEntry) (shell : Shell) : Shell :=
  { shell with linker := shell.linker.emit entry }

def maybeInvoke (inst : Instance) (name : Option String) (args : List String) :
    ShellAction Unit :=
  match name with
  | some name => invoke inst name args
  | none => pure ()

end Shell

namespace RunRequest

def span : TraceEntry := ⟨.runCommand, .debug, .span, "wasm_link_run", []⟩

def linkedEntry (bindings : Nat) : TraceEntry :=
  ⟨.runCommand, .info, .event, "instantiated", [("bindings", some (.count bindings))]⟩

def perform (files : FileSystem) (request : RunRequest) : ShellAction Unit := do
  modify fun shell =>
    { shell with linker := shell.linker.allowShadowing request.allowShadowing }
  request.preloads.forM (Shell.preload files)
  let m ← Shell.load files request.file
  if request.trapUnknownImports then
    Shell.link .link (Linker.defineUnknownImports m)
  let inst ← Shell.link .instantiation (Linker.instantiate m)
  modify fun shell => shell.emit (linkedEntry shell.linker.registry.size)
  Shell.maybeInvoke inst request.invoke request.args

def execute (files : FileSystem) (request : RunRequest) : ShellAction Unit :=
  Shell.within ("failed to run `" ++ request.file ++ "`")
    (RunRequest.span.around Shell.emit (request.perform files))

end RunRequest

namespace ManifestRequest

def perform (files : FileSystem) (request : ManifestRequest) : ShellAction Unit := do
  let manifest ← Shell.link .manifest (Manifest.settle (Manifest.ofPath files request.file))
  let inst ← Shell.link .manifest (manifest.apply files)
  match request.invoke, inst with
  | none, _ => pure ()
  | some name, some inst => Shell.invoke inst name request.args
  | some _, none =>
      throw (.of (.message "`--invoke` needs a `main` module in the manifest"))

def execute (files : FileSystem) (request : ManifestRequest) : ShellAction Unit :=
  Shell.within ("failed to link `" ++ request.file ++ "`") (request.perform files)

end ManifestRequest

namespace InspectRequest

def importLine (linker : Linker) (i : Import) : String :=
  "  \"" ++ i.module ++ "\".\"" ++ i.name ++ "\": " ++ i.type.text ++ " ["
    ++ (linker.status i).text ++ "]"

def exportLine (e : String × ExternType) : String :=
  "  \"" ++ e.1 ++ "\": " ++ e.2.text

def perform (files : FileSystem) (request : InspectRequest) : ShellAction Unit := do
  request.preloads.forM (Shell.preload files)
  let m ← Shell.load files request.file
  let linker := (← get).linker
  Shell.print (["Imports:"] ++ m.imports.map (importLine linker) ++ ["Exports:"]
    ++ m.exportTypes.map exportLine)

def execute (files : FileSystem) (request : InspectRequest) : ShellAction Unit :=
  Shell.within ("failed to inspect `" ++ request.file ++ "`") (request.perform files)

end InspectRequest

def Request.execute (files : FileSystem) : Request → ShellAction Unit
  | .run request => request.execute files
  | .manifest request => request.execute files
  | .inspect request => request.execute files

structure Report where
  output : String
  failure : Option Failure
  trace : List TraceEntry

def Report.exitCode (report : Report) : Nat :=
  match report.failure with
  | none => 0
  | some failure => failure.exitCode

def Request.report (files : FileSystem) (request : Request) (engine : Engine := .interpreter) :
    Report :=
  match request.execute files (Shell.fresh engine) with
  | .ok () shell => ⟨shell.output, none, shell.linker.trace⟩
  | .error failure shell => ⟨shell.output, some failure, shell.linker.trace⟩

end Linkage
