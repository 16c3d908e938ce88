import Linkage.Engine
import Linkage.Namespace
import Linkage.Trace

/-!
The linker: a store, the registry of bindings of values of that store, the shadowing setting, and
the engine that makes instances. Operations change the linker and can fail; a failed one leaves the
linker as it was when the fault was met. Registering several values is not atomic: those before the
fault stay registered.
-/

namespace Linkage

structure Linker where
  store : Store
  registry : Namespace
  shadowing : Shadowing
  trace : List TraceEntry
  engine : Engine

abbrev Linking (ε : Type) := EStateM ε Linker

namespace Linker

def new (store : Store) (engine : Engine := .interpreter) : Linker :=
  ⟨store, Namespace.empty, .reject, [], engine⟩

def emit (linker : Linker) (entry : TraceEntry) : Linker :=
  { linker with trace := linker.trace ++ [entry] }

def within {ε α : Type} (span : TraceEntry) (action : Linking ε α) : Linking ε α :=
  span.around (fun entry linker => linker.emit entry) action

def note (linker : Linker) (level : Level) (name : String) (fields : List (String × FieldValue)) :
    Linker :=
  linker.emit ⟨.linker, level, .event, name, fields.map fun field => (field.1, some field.2)⟩

@[simp] theorem store_emit (linker : Linker) (entry : TraceEntry) :
    (linker.emit entry).store = linker.store := rfl

@[simp] theorem engine_emit (linker : Linker) (entry : TraceEntry) :
    (linker.emit entry).engine = linker.engine := rfl

@[simp] theorem store_note (linker : Linker) (level : Level) (name : String)
    (fields : List (String × FieldValue)) : (linker.note level name fields).store = linker.store :=
  rfl

/-- Applies to later definitions only; bindings made before are not looked at again. -/
def allowShadowing (linker : Linker) (allowed : Bool) : Linker :=
  { linker with shadowing := Shadowing.ofBool allowed }

def shadowingAllowed (linker : Linker) : Bool :=
  linker.shadowing = .allow

def get? (linker : Linker) (module name : String) : Option Extern :=
  linker.registry.get? module name

end Linker

def Store.bindingKind (store : Store) (module name : String) (item : Item) :
    Except TypeError ExternKind :=
  let type := store.typeOf item
  match type.kind? with
  | some kind => .ok kind
  | none => .error (.unsupportedExtern module name type.text)

namespace Linker

/-- What a value has to be before the registry is asked: of this store first, then of a kind. -/
def classify (linker : Linker) (module name : String) (value : Extern) :
    Except TypeError ExternKind :=
  if linker.store.owns value then linker.store.bindingKind module name value.item
  else .error (.foreignStore module name)

def definitionEntry (module name : String) (kind : ExternKind) (previous : Option Extern) :
    TraceEntry :=
  let fields := [("module", some (FieldValue.text module)), ("name", some (.text name)),
    ("kind", some (.written kind.name))]
  match previous with
  | some _ => ⟨.linker, .debug, .event, "shadowed an existing definition", fields⟩
  | none => ⟨.linker, .trace, .event, "defined", fields⟩

def bindClassified (module name : String) (value : Extern)
    (classified : Except TypeError ExternKind) : Linking LinkError Unit := fun linker =>
  match classified with
  | .error error => .error (.type error) linker
  | .ok kind =>
      match linker.registry.insert module name value linker.shadowing with
      | .error error => .error error linker
      | .ok (previous, registry) =>
          .ok () ({ linker with registry := registry }.emit
            (definitionEntry module name kind previous))

/-- Binds a value. On failure the registry is as before. -/
def define (module name : String) (value : Extern) : Linking LinkError Unit := fun linker =>
  bindClassified module name value (linker.classify module name value) linker

/-- Binds values one after the other, up to the first that fails. -/
def defineExports (module : String) : List (String × Extern) → Linking LinkError Unit
  | [] => pure ()
  | (name, value) :: rest => do
      define module name value
      defineExports module rest

def defineInstance (module : String) (inst : Instance) : Linking LinkError Unit :=
  defineExports module inst.exports

def defineAll : List (String × String × Extern) → Linking LinkError Unit
  | [] => pure ()
  | (module, name, value) :: rest => do
      define module name value
      defineAll rest

def text (linker : Linker) : String :=
  "Linker \x7b namespace: " ++ linker.registry.text ++ ", shadowing: " ++ linker.shadowing.name
    ++ " \x7d"

def spreadKey (key : String × String) : List String :=
  ["            (", "                " ++ Text.quote key.1 ++ ",",
    "                " ++ Text.quote key.2 ++ ",", "            ),"]

def spreadText (linker : Linker) : String :=
  let keys := match linker.registry.sortedKeys with
    | [] => ["        keys: [],"]
    | keys => ["        keys: ["] ++ keys.flatMap spreadKey ++ ["        ],"]
  let lines := ["Linker \x7b", "    namespace: Namespace \x7b"] ++ keys
    ++ ["    \x7d,", "    shadowing: " ++ linker.shadowing.name ++ ",", "\x7d"]
  "\n".intercalate lines

end Linker

end Linkage
