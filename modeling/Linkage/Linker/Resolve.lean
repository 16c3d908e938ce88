import Linkage.Linker.Basic

/-!
Matching the imports of a module against the bindings of a linker, one import after the other in
the order of their declaration. The first import that is unbound or bound to a value of another
type decides the error. Beside it stands the reading of each import on its own, its status.
-/

namespace Linkage

inductive ImportStatus where
  | bound
  | unresolved
  | mismatched
  deriving DecidableEq, Repr

def ImportStatus.text : ImportStatus → String
  | .bound => "ok"
  | .unresolved => "unresolved"
  | .mismatched => "type mismatch"

namespace Linker

/-- Whether a value may be bound to an import of the given type, as things are now. -/
def compatible (linker : Linker) (expected : ExternType) (value : Extern) : Bool :=
  expected.accepts (linker.store.typeOf value.item)

def status (linker : Linker) (i : Import) : ImportStatus :=
  match linker.get? i.module i.name with
  | none => .unresolved
  | some value => if linker.compatible i.type value then .bound else .mismatched

def resolveImport (linker : Linker) (i : Import) : Except LinkError Extern :=
  match linker.get? i.module i.name with
  | none => .error (.unresolvedImport i.module i.name i.type)
  | some value =>
      if linker.compatible i.type value then .ok value
      else .error
        (.importTypeMismatch i.module i.name i.type (linker.store.typeOf value.item))

def resolveImports (linker : Linker) : List Import → Except LinkError (List Extern)
  | [] => .ok []
  | i :: rest => do
      let value ← linker.resolveImport i
      let values ← linker.resolveImports rest
      pure (value :: values)

def resolve (linker : Linker) (m : Module) : Except LinkError (List Extern) :=
  linker.resolveImports m.imports

/-- The imports without a binding, repetitions included. -/
def unresolvedImports (linker : Linker) (m : Module) : List Import :=
  m.imports.filter fun i => !linker.registry.contains i.module i.name

end Linker

end Linkage
