import Linkage.Instance

/-!
What an embedding program does with the values of a store by itself: it makes them, sets globals,
grows and reads memories and calls functions. Each operation checks what it is given before it
touches the store. A refused operation changes nothing; only a call that traps may leave behind
what the code did until then.
-/

namespace Linkage

inductive AccessError where
  | memoryMinimum (pages : Nat)
  | memoryMaximum (pages : Nat)
  | memoryLimits (min max : Nat)
  | tableLimits (min max : Nat)
  | immutableGlobal
  | globalType (own given : ValType)
  | growth (pages more : Nat)
  | outOfBounds
  | addressOverflow
  | arguments (given : List ValType) (type : FuncType)
  | trap (cause : Trap)
  deriving DecidableEq, Repr

def pagesText (pages : Nat) : String :=
  toString pages ++ " pages"

def AccessError.message : AccessError → String
  | .memoryMinimum pages =>
      "The minimum requested (" ++ pagesText pages
        ++ ") memory is greater than the maximum allowed memory (" ++ pagesText pageLimit ++ ")"
  | .memoryMaximum pages =>
      "The maximum requested memory (" ++ pagesText pages
        ++ ") is greater than the maximum allowed memory (" ++ pagesText pageLimit ++ ")"
  | .memoryLimits min max =>
      "The memory is invalid because the maximum (" ++ pagesText max
        ++ ") is less than the minimum (" ++ pagesText min ++ ")"
  | .tableLimits min max =>
      "Table minimum (" ++ toString min ++ ") is larger than maximum (" ++ toString max ++ ")!"
  | .immutableGlobal => "Attempted to set an immutable global"
  | .globalType own given =>
      "Attempted to operate on a global of type " ++ own.text ++ " as a global of type "
        ++ given.text
  | .growth pages more =>
      "The memory could not grow: current size " ++ pagesText pages ++ ", requested increase: "
        ++ pagesText more
  | .outOfBounds => "memory access out of bounds"
  | .addressOverflow => "address calculation overflow"
  | .arguments given type =>
      "Parameters of type " ++ ValType.listText given ++ " did not match signature "
        ++ type.signature
  | .trap cause => cause.message

def MemoryType.fault? (type : MemoryType) : Option AccessError :=
  if pageLimit < type.min then some (.memoryMinimum type.min)
  else match type.max with
    | none => none
    | some max =>
        if pageLimit < max then some (.memoryMaximum max)
        else if max < type.min then some (.memoryLimits type.min max)
        else none

def TableType.fault? (type : TableType) : Option AccessError :=
  match type.max with
  | none => none
  | some max => if max < type.min then some (.tableLimits type.min max) else none

abbrev Access := EStateM AccessError Store

namespace Access

def refuse (fault : Option AccessError) : Access Unit :=
  match fault with
  | some error => throw error
  | none => pure ()

def create {ρ : Type} (item : ρ → Item) (add : Store → ρ × Store) : Access Extern := fun store =>
  let (ref, larger) := add store
  .ok (store.handle (item ref)) larger

def newFunc (func : FuncInst) : Access Extern :=
  create .func fun store => store.addFunc func

def newGlobal (type : GlobalType) (value : Value) : Access Extern :=
  create .global fun store => store.addGlobal type value

def newMemory (type : MemoryType) : Access Extern := do
  refuse type.fault?
  create .memory fun store => store.addMemory type

def newTable (type : TableType) : Access Extern := do
  refuse type.fault?
  create .table fun store => store.addTable type

def newTag (type : TagType) : Access Extern :=
  create .tag fun store => store.addTag type

/-- Runs code for the embedding program, to which a trap is one more refusal. -/
def running {α : Type} (action : Exec α) : Access α :=
  EStateM.adaptExcept .trap action

def setGlobal (ref : GlobalRef) (value : Value) : Access Unit :=
  if !ref.type.mutable then throw .immutableGlobal
  else if value.type ≠ ref.type.content then throw (.globalType ref.type.content value.type)
  else running (Exec.setGlobal ref.address value)

/-- Gives the size before. -/
def growMemory (ref : MemoryRef) (pages : Nat) : Access Nat := do
  match ← running (Exec.growMemory ref pages) with
  | some before => pure before
  | none => throw (.growth ((← get).pagesAt ref.address) pages)

/-- An end that no 64-bit address reaches is refused as such. -/
def readMemory (ref : MemoryRef) (offset count : Nat) : Access (List UInt8) := do
  if 0x10000000000000000 ≤ offset + count then throw .addressOverflow
  match (← get).memories[ref.address]?.bind fun memory => memory.read offset count with
  | some bytes => pure bytes
  | none => throw .outOfBounds

def call (func : FuncRef) (args : List Value) : Access (List Value) :=
  if args.map Value.type ≠ func.type.params then
    throw (.arguments (args.map Value.type) func.type)
  else running (Exec.callFunc func args)

end Access

end Linkage
