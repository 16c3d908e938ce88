import Linkage.Linker.Resolve

/-!
Stand-ins for missing functions. Each unresolved function import gets a function of its declared
type that traps when it is called and says which key it stands for. Imports of other kinds are
left alone. Which imports are unresolved is settled before the first stand-in is defined, so a key
that is imported twice is defined twice.
-/

namespace Linkage.Linker

def standInMessage (module name : String) : String :=
  "unknown import: `" ++ module ++ "::" ++ name ++ "` has not been defined"

def defineStandIn (i : Import) : Linking LinkError Unit := fun linker =>
  match i.type with
  | .func type =>
      let (ref, store) :=
        linker.store.addFunc ⟨type, .standIn (standInMessage i.module i.name)⟩
      define i.module i.name (store.handle (.func ref)) { linker with store := store }
  | _ => .ok () linker

def defineStandIns : List Import → Linking LinkError Unit
  | [] => pure ()
  | i :: rest => do
      defineStandIn i
      defineStandIns rest

def defineUnknownImports (m : Module) : Linking LinkError Unit := fun linker =>
  defineStandIns (linker.unresolvedImports m) linker

end Linkage.Linker
