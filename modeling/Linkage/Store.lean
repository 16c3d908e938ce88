import Linkage.Module
import Linkage.Trap

/-!
The store: all functions, globals, memories and tables that programs run on, and the record of the
host calls made so far. A reference is an address together with the part of the type that never
changes; a handle is a reference and the store it belongs to. Contents of memories and tables are
total functions with a size beside them, which only ever grows. Nothing is removed from a store.
-/

namespace Linkage

abbrev StoreId := Nat

structure FuncRef where
  address : Nat
  type : FuncType
  deriving DecidableEq, Repr

structure GlobalRef where
  address : Nat
  type : GlobalType
  deriving DecidableEq, Repr

structure MemoryRef where
  address : Nat
  max : Option Nat
  shared : Bool
  deriving DecidableEq, Repr

structure TableRef where
  address : Nat
  type : TableType
  deriving DecidableEq, Repr

structure TagRef where
  address : Nat
  type : TagType
  deriving DecidableEq, Repr

inductive Item where
  | func (ref : FuncRef)
  | global (ref : GlobalRef)
  | memory (ref : MemoryRef)
  | table (ref : TableRef)
  | tag (ref : TagRef)
  deriving DecidableEq, Repr

/-- A value that can be bound: a handle on something in a store. -/
structure Extern where
  store : StoreId
  item : Item
  deriving DecidableEq, Repr

structure Env where
  funcs : List FuncRef
  globals : List GlobalRef
  memories : List MemoryRef
  tables : List TableRef
  deriving DecidableEq, Repr

inductive HostAnswer where
  | trap (message : String)
  | echo
  | values (results : List Value)
  deriving DecidableEq, Repr

inductive FuncBody where
  /-- A function of the host. Its calls are recorded under `name`. -/
  | host (name : String) (answer : HostAnswer)
  /-- A function put in for one that is missing: it only traps. -/
  | standIn (message : String)
  | code (locals : List ValType) (body : List Instr) (env : Env)
  deriving DecidableEq, Repr

structure FuncInst where
  type : FuncType
  body : FuncBody
  deriving DecidableEq, Repr

structure Memory where
  pages : Nat
  byte : Nat → UInt8

structure Table where
  size : Nat
  entry : Nat → Option FuncRef

structure HostCall where
  name : String
  args : List Value
  deriving DecidableEq, Repr

structure Store where
  id : StoreId
  funcs : List FuncInst := []
  globals : List Value := []
  memories : List Memory := []
  tables : List Table := []
  tags : Nat := 0
  calls : List HostCall := []

def pageSize : Nat := 65536

def pageLimit : Nat := 65536

namespace Memory

def empty (pages : Nat) : Memory := ⟨pages, fun _ => 0⟩

def size (memory : Memory) : Nat := memory.pages * pageSize

def read (memory : Memory) (offset count : Nat) : Option (List UInt8) :=
  if offset + count ≤ memory.size then
    some ((List.range count).map fun index => memory.byte (offset + index))
  else none

def write (memory : Memory) (offset : Nat) (bytes : List UInt8) : Option Memory :=
  if offset + bytes.length ≤ memory.size then
    some { memory with
      byte := fun index =>
        if index < offset then memory.byte index
        else (bytes[index - offset]?).getD (memory.byte index) }
  else none

def grow (memory : Memory) (max : Option Nat) (pages : Nat) : Option Memory :=
  if memory.pages + pages ≤ max.getD pageLimit then
    some { memory with pages := memory.pages + pages }
  else none

end Memory

namespace Table

def empty (size : Nat) : Table := ⟨size, fun _ => none⟩

def write (table : Table) (offset : Nat) (funcs : List FuncRef) : Option Table :=
  if offset + funcs.length ≤ table.size then
    some { table with
      entry := fun index =>
        if index < offset then table.entry index
        else if h : index - offset < funcs.length then some funcs[index - offset]
        else table.entry index }
  else none

end Table

namespace Store

def pagesAt (store : Store) (address : Nat) : Nat :=
  (store.memories[address]?.map Memory.pages).getD 0

/-- The type of a referenced thing. Only a memory's changes: its least size is its size now. -/
def typeOf (store : Store) : Item → ExternType
  | .func ref => .func ref.type
  | .global ref => .global ref.type
  | .memory ref => .memory ⟨store.pagesAt ref.address, ref.max, ref.shared⟩
  | .table ref => .table ref.type
  | .tag ref => .tag ref.type

def owns (store : Store) (value : Extern) : Bool :=
  value.store = store.id

def handle (store : Store) (item : Item) : Extern :=
  ⟨store.id, item⟩

def addFunc (store : Store) (func : FuncInst) : FuncRef × Store :=
  (⟨store.funcs.length, func.type⟩, { store with funcs := store.funcs ++ [func] })

def addGlobal (store : Store) (type : GlobalType) (value : Value) : GlobalRef × Store :=
  (⟨store.globals.length, type⟩, { store with globals := store.globals ++ [value] })

def addMemory (store : Store) (type : MemoryType) : MemoryRef × Store :=
  (⟨store.memories.length, type.max, type.shared⟩,
    { store with memories := store.memories ++ [Memory.empty type.min] })

def addTable (store : Store) (type : TableType) : TableRef × Store :=
  (⟨store.tables.length, type⟩, { store with tables := store.tables ++ [Table.empty type.min] })

def addTag (store : Store) (type : TagType) : TagRef × Store :=
  (⟨store.tags, type⟩, { store with tags := store.tags + 1 })

end Store

end Linkage
