import Linkage.Linker.Basic

/-!
Capabilities of the host: named values that are registered together under one module name, like
the exports of an instance. A name that is inserted again keeps its place and takes the new value.
-/

namespace Linkage

structure Capability where
  module : String
  exports : List (String × Extern)
  deriving DecidableEq, Repr

namespace Capability

def new (module : String) : Capability := ⟨module, []⟩

def insert (capability : Capability) (name : String) (value : Extern) : Capability :=
  { capability with exports := putNamed name value capability.exports }

def insertAll (capability : Capability) (exports : List (String × Extern)) : Capability :=
  exports.foldl (fun sofar binding => sofar.insert binding.1 binding.2) capability

/-- Takes the entries of one module name out of a list of keyed values, later entries replacing
earlier ones. There is no capability if there is no such entry. -/
def ofEntries? (module : String) (entries : List (String × String × Extern)) :
    Option Capability :=
  match entries.filter fun entry => entry.1 = module with
  | [] => none
  | own => some ((new module).insertAll (own.map fun entry => entry.2))

end Capability

namespace Linker

def defineHost (capability : Capability) : Linking LinkError Unit :=
  defineExports capability.module capability.exports

def defineWasi (capability : Capability) : Linking LinkError Unit := fun linker =>
  defineHost capability
    (linker.note .debug "defining WASI imports" [("namespace", .text capability.module)])

end Linker

end Linkage
