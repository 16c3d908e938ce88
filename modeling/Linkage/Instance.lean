import Linkage.Exec

/-!
Making an instance of a module over a store. The values for the imports are taken by position and
checked again here: they have to live in the store, agree with the declared types, and memories
and tables have to keep the declared limits. Nothing is added to the store before all of them have
passed. Then the module's own things are added, its element and data segments are written in that
order, and its start function runs. A segment that does not fit and a start function that traps
both stop the instantiation, and what was done before stays done.
-/

namespace Linkage

structure Instance where
  store : StoreId
  exports : List (String × Extern)
  deriving DecidableEq, Repr

/-- The value exported under a name; the first one, if a name were used twice. -/
def Instance.export? (inst : Instance) (name : String) : Option Extern :=
  inst.exports.lookup name

inductive ImportFault where
  | unknown (expected : ExternType)
  | incompatible (expected found : ExternType)
  | memory (message : String)
  deriving DecidableEq, Repr

def ImportFault.message : ImportFault → String
  | .unknown expected => "unknown import. Expected " ++ expected.text
  | .incompatible expected found =>
      "incompatible import type. Expected " ++ expected.text ++ " but received " ++ found.text
  | .memory message => "memory error. " ++ message

inductive EngineError where
  | atImport (module name : String) (fault : ImportFault)
  | linkTrap (cause : Trap)
  | resource (message : String)
  | start (cause : Trap)
  | cpuFeature (message : String)
  | differentStores
  | differentArchitecture
  deriving DecidableEq, Repr

def withinLimits (size : Nat) (max : Option Nat) (declaredMin : Nat) (declaredMax : Option Nat) :
    Bool :=
  declaredMin ≤ size &&
    match declaredMax, max with
    | none, _ => true
    | some _, none => false
    | some bound, some own => own ≤ bound

def Store.sizeAt (store : Store) (address : Nat) : Nat :=
  (store.tables[address]?.map Table.size).getD 0

def Store.admits (store : Store) (expected : ExternType) : Item → Bool
  | .func ref => expected = .func ref.type
  | .global ref => expected = .global ref.type
  | .memory ref => match expected with
      | .memory type =>
          withinLimits (store.pagesAt ref.address) ref.max type.min type.max
            && ref.shared == type.shared
      | _ => false
  | .table ref => match expected with
      | .table type =>
          ref.type.element = type.element
            && withinLimits (store.sizeAt ref.address) ref.type.max type.min type.max
      | _ => false
  | .tag ref => expected = .tag ref.type

def Store.checkImports (store : Store) : List Import → List Extern → Except EngineError Unit
  | [], _ => .ok ()
  | i :: _, [] => .error (.atImport i.module i.name (.unknown i.type))
  | i :: rest, value :: values =>
      if store.admits i.type value.item then store.checkImports rest values
      else .error (.atImport i.module i.name (.incompatible i.type (store.typeOf value.item)))

def Store.checkValues (store : Store) (imports : List Import) (values : List Extern) :
    Except EngineError Unit :=
  if values.all store.owns then store.checkImports imports values else .error .differentStores

def Env.ofImports (values : List Extern) : Env where
  funcs := values.filterMap fun value => match value.item with | .func ref => some ref | _ => none
  globals :=
    values.filterMap fun value => match value.item with | .global ref => some ref | _ => none
  memories :=
    values.filterMap fun value => match value.item with | .memory ref => some ref | _ => none
  tables :=
    values.filterMap fun value => match value.item with | .table ref => some ref | _ => none

def Env.itemAt (env : Env) (kind : ExternKind) (index : Nat) : Option Item :=
  match kind with
  | .function => env.funcs[index]?.map .func
  | .global => env.globals[index]?.map .global
  | .memory => env.memories[index]?.map .memory
  | .table => env.tables[index]?.map .table

def initialValue (store : Store) (globals : List GlobalRef) (global : GlobalDef) : Value :=
  match global.init with
  | .const value => value
  | .copy index =>
      (globals[index]?.bind fun ref => store.globals[ref.address]?).getD
        (Value.zero global.type.content)

/-- Adds globals one by one, since one may start with the value of an earlier one. -/
def addGlobals (store : Store) (globals : List GlobalRef) :
    List GlobalDef → List GlobalRef × Store
  | [] => (globals, store)
  | global :: rest =>
      let (ref, larger) := store.addGlobal global.type (initialValue store globals global)
      addGlobals larger (globals ++ [ref]) rest

def Module.allocate (m : Module) (values : List Extern) (store : Store) : Env × Store :=
  let imported := Env.ofImports values
  let (globals, withGlobals) := addGlobals store imported.globals m.globals
  let env : Env := {
    funcs := imported.funcs ++ m.funcs.mapIdx fun index func =>
      ⟨store.funcs.length + index, func.type⟩
    globals := globals
    memories := imported.memories ++ m.memories.mapIdx fun index type =>
      ⟨store.memories.length + index, type.max, type.shared⟩
    tables := imported.tables ++ m.tables.mapIdx fun index type =>
      ⟨store.tables.length + index, type⟩ }
  (env, { withGlobals with
    funcs := store.funcs ++ m.funcs.map fun func => ⟨func.type, .code func.locals func.body env⟩
    memories := store.memories ++ m.memories.map fun type => Memory.empty type.min
    tables := store.tables ++ m.tables.map fun type => Table.empty type.min })

def Env.writeElements (env : Env) (segment : ElementSegment) : Exec Unit := do
  let ref ← Exec.orTrap .malformed env.tables[segment.table]?
  let funcs ← Exec.orTrap .malformed (segment.funcs.mapM fun index => env.funcs[index]?)
  Exec.writeTable ref.address segment.offset.toNat funcs

def Env.writeData (env : Env) (segment : DataSegment) : Exec Unit := do
  let ref ← Exec.orTrap .malformed env.memories[segment.memory]?
  Exec.writeMemory ref.address segment.offset.toNat segment.bytes

def Env.runStart (env : Env) : Option Nat → Exec Unit
  | none => pure ()
  | some index => do
      let func ← Exec.orTrap .malformed env.funcs[index]?
      let _ ← Exec.callFunc func []

def Module.populate (m : Module) (env : Env) : Exec Unit := do
  m.elements.forM env.writeElements
  m.datas.forM env.writeData
  env.runStart m.start

def Module.exportsOf (m : Module) (env : Env) (store : StoreId) : List (String × Extern) :=
  m.exports.filterMap fun e => (env.itemAt e.kind e.index).map fun item => (e.name, ⟨store, item⟩)

def Module.instantiate (m : Module) (values : List Extern) : EStateM EngineError Store Instance :=
  fun store =>
    match store.checkValues m.imports values with
    | .error error => .error error store
    | .ok () =>
        let (env, larger) := m.allocate values store
        match m.populate env larger with
        | .error trap after => .error (.start trap) after
        | .ok () after => .ok ⟨store.id, m.exportsOf env store.id⟩ after

end Linkage
