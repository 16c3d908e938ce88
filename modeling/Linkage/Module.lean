import Linkage.Value

/-!
Compiled modules. Index spaces run over the imports of a kind first and the module's own
definitions after them. A module is taken to be valid: its indices are in range, its bodies are
well typed and its export names are distinct.
-/

namespace Linkage

inductive Instr where
  | nop
  | unreachable
  | drop
  | const (value : Value)
  | call (index : Nat)
  | callIndirect (table : Nat) (type : FuncType)
  | localGet (index : Nat)
  | globalGet (index : Nat)
  | globalSet (index : Nat)
  | i32Add
  | i32DivS
  | i32DivU
  | i32RemS
  | i64RemU
  | f64Add
  | f64Mul
  | f64Div
  | i32TruncF64S
  | i32Load
  | i32Load8U
  | i32Store
  | memorySize
  | memoryGrow
  deriving DecidableEq, Repr

structure Import where
  module : String
  name : String
  type : ExternType
  deriving DecidableEq, Repr

structure FuncDef where
  type : FuncType
  locals : List ValType
  body : List Instr
  deriving DecidableEq, Repr

inductive GlobalInit where
  | const (value : Value)
  | copy (index : Nat)
  deriving DecidableEq, Repr

structure GlobalDef where
  type : GlobalType
  init : GlobalInit
  deriving DecidableEq, Repr

structure Export where
  name : String
  kind : ExternKind
  index : Nat
  deriving DecidableEq, Repr

structure ElementSegment where
  table : Nat
  offset : BitVec 32
  funcs : List Nat
  deriving DecidableEq, Repr

structure DataSegment where
  memory : Nat
  offset : BitVec 32
  bytes : List UInt8
  deriving DecidableEq, Repr

structure Module where
  name : Option String := none
  imports : List Import := []
  funcs : List FuncDef := []
  globals : List GlobalDef := []
  memories : List MemoryType := []
  tables : List TableType := []
  exports : List Export := []
  start : Option Nat := none
  elements : List ElementSegment := []
  datas : List DataSegment := []
  deriving DecidableEq, Repr

namespace Module

/-- A name sticks only to a module without functions of its own. -/
def named (name : String) (m : Module) : Module :=
  if m.funcs.isEmpty then { m with name := some name } else m

def importedFuncs (m : Module) : List FuncType :=
  m.imports.filterMap fun i => match i.type with | .func type => some type | _ => none

def importedGlobals (m : Module) : List GlobalType :=
  m.imports.filterMap fun i => match i.type with | .global type => some type | _ => none

def importedMemories (m : Module) : List MemoryType :=
  m.imports.filterMap fun i => match i.type with | .memory type => some type | _ => none

def importedTables (m : Module) : List TableType :=
  m.imports.filterMap fun i => match i.type with | .table type => some type | _ => none

def typeAt (m : Module) (kind : ExternKind) (index : Nat) : Option ExternType :=
  match kind with
  | .function => (m.importedFuncs ++ m.funcs.map FuncDef.type)[index]?.map .func
  | .global => (m.importedGlobals ++ m.globals.map GlobalDef.type)[index]?.map .global
  | .memory => (m.importedMemories ++ m.memories)[index]?.map .memory
  | .table => (m.importedTables ++ m.tables)[index]?.map .table

def exportTypes (m : Module) : List (String × ExternType) :=
  m.exports.filterMap fun e => (m.typeAt e.kind e.index).map (e.name, ·)

end Module

end Linkage
