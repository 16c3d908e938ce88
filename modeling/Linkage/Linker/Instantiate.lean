import Linkage.Linker.Resolve

/-!
Instantiating a module with the values that its imports resolve to, and registering what it
exports. If an import cannot be resolved nothing has run. When shadowing is refused, an export
that is bound already is reported before the module is instantiated, so its start function does
not run either.
-/

namespace Linkage.Linker

def instantiationSpan (m : Module) : TraceEntry :=
  ⟨.linker, .debug, .span, "instantiate", [("module", m.name.map FieldValue.text)]⟩

def instantiateResolved (m : Module) : Linking InstantiationError Instance := fun linker =>
  match linker.resolve m with
  | .error error =>
      .error (.link error)
        (linker.note .debug "unable to resolve imports" [("error", .written error.message)])
  | .ok values =>
      let resolved := linker.note .trace "resolved imports" [("imports", .count values.length)]
      match linker.engine.instantiate m values resolved.store with
      | .ok inst store =>
          .ok inst ({ resolved with store := store }.note .debug "instantiated" [])
      | .error error store =>
          let failure := InstantiationError.ofEngine error
          .error failure ({ resolved with store := store }.note .debug "instantiation failed"
            [("error", .written failure.message), ("trap", .flag failure.isTrap)])

def instantiate (m : Module) : Linking InstantiationError Instance :=
  within (instantiationSpan m) (instantiateResolved m)

def collision? (linker : Linker) (module : String) (m : Module) : Option Export :=
  m.exports.find? fun e => linker.registry.contains module e.name

def lifted {α : Type} (action : Linking LinkError α) : Linking InstantiationError α :=
  EStateM.adaptExcept .link action

def instantiateAndDefine (module : String) (m : Module) :
    Linking InstantiationError Instance := do
  let inst ← instantiate m
  lifted (defineInstance module inst)
  pure inst

def register (module : String) (m : Module) : Linking InstantiationError Instance := fun linker =>
  match (if linker.shadowing = .reject then linker.collision? module m else none) with
  | some e =>
      let error := LinkError.duplicateDefinition module e.name
      .error (.link error)
        (linker.note .debug "export collides with an existing definition"
          [("error", .written error.message)])
  | none => instantiateAndDefine module m linker

end Linkage.Linker
