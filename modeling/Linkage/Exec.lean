import Linkage.Store
import Linkage.Number.Binary

/-!
Running code. A run reads and changes the store, and what it changed before a trap stays changed.
Bodies have no branches, so one walk over a body suffices; the only way to run on is to call, and
calls nest at most `callDepth` deep. A deeper call is the trap that the call stack is exhausted.
-/

namespace Linkage

abbrev Exec := EStateM Trap Store

structure Frame where
  locals : List Value
  env : Env

namespace Exec

def orTrap {α : Type} (trap : Trap) : Option α → Exec α
  | some value => pure value
  | none => throw trap

def readMemory (env : Env) (offset count : Nat) : Exec (List UInt8) := do
  let ref ← orTrap .malformed env.memories[0]?
  let memory ← orTrap .malformed (← get).memories[ref.address]?
  orTrap .memoryOutOfBounds (memory.read offset count)

def writeMemory (address offset : Nat) (bytes : List UInt8) : Exec Unit := do
  let store ← get
  let memory ← orTrap .malformed store.memories[address]?
  let written ← orTrap .memoryOutOfBounds (memory.write offset bytes)
  set { store with memories := store.memories.set address written }

def writeTable (address offset : Nat) (funcs : List FuncRef) : Exec Unit := do
  let store ← get
  let table ← orTrap .malformed store.tables[address]?
  let written ← orTrap .tableOutOfBounds (table.write offset funcs)
  set { store with tables := store.tables.set address written }

/-- The size before, or nothing if the memory may not grow that far. -/
def growMemory (ref : MemoryRef) (pages : Nat) : Exec (Option Nat) := do
  let store ← get
  let memory ← orTrap .malformed store.memories[ref.address]?
  match memory.grow ref.max pages with
  | none => pure none
  | some grown =>
      set { store with memories := store.memories.set ref.address grown }
      pure (some memory.pages)

def setGlobal (address : Nat) (value : Value) : Exec Unit :=
  modify fun store => { store with globals := store.globals.set address value }

def littleEndian : List UInt8 → Nat
  | [] => 0
  | byte :: rest => byte.toNat + 256 * littleEndian rest

def bytesOf (word : BitVec 32) : List UInt8 :=
  (List.range 4).map fun index => UInt8.ofNat (word.toNat / Nat.pow 256 index)

def signedQuotient (left right : BitVec 32) : Exec Value :=
  if right = 0 then throw .divideByZero
  else if left = BitVec.intMin 32 ∧ right = -1 then throw .integerOverflow
  else pure (.i32 (left.sdiv right))

def truncated (bits : BitVec 64) : Exec Value :=
  match Number.Binary.ofBits .binary64 bits.toNat with
  | .nan => throw .invalidConversion
  | .infinity _ => throw .integerOverflow
  | .finite negative significand exponent =>
      let whole := Number.truncate negative significand exponent
      if -0x80000000 ≤ whole ∧ whole < 0x80000000 then pure (.i32 (BitVec.ofInt 32 whole))
      else throw .integerOverflow

/-- Takes the topmost `count` operands, in the order they were pushed. -/
def popMany (count : Nat) (stack : List Value) : Exec (List Value × List Value) :=
  if count ≤ stack.length then pure ((stack.take count).reverse, stack.drop count)
  else throw .malformed

def arithmetic64 (operation : Number.BinaryFormat → Nat → Nat → Nat) (left right : BitVec 64) :
    Value :=
  .f64 (BitVec.ofNat 64 (operation .binary64 left.toNat right.toNat))

/-- One instruction on the operand stack, the top of it first. `call` runs a function. -/
def step (call : FuncRef → List Value → Exec (List Value)) (frame : Frame) :
    Instr → List Value → Exec (List Value)
  | .nop, stack => pure stack
  | .unreachable, _ => throw .unreachable
  | .drop, _ :: rest => pure rest
  | .const value, stack => pure (value :: stack)
  | .call index, stack => do
      let func ← orTrap .malformed frame.env.funcs[index]?
      let (args, rest) ← popMany func.type.params.length stack
      let results ← call func args
      pure (results.reverse ++ rest)
  | .callIndirect index type, .i32 position :: stack => do
      let ref ← orTrap .malformed frame.env.tables[index]?
      let table ← orTrap .malformed (← get).tables[ref.address]?
      if table.size ≤ position.toNat then throw .tableOutOfBounds
      let func ← orTrap .uninitializedElement (table.entry position.toNat)
      if func.type ≠ type then throw .signatureMismatch
      let (args, rest) ← popMany type.params.length stack
      let results ← call func args
      pure (results.reverse ++ rest)
  | .localGet index, stack => do
      let value ← orTrap .malformed frame.locals[index]?
      pure (value :: stack)
  | .globalGet index, stack => do
      let ref ← orTrap .malformed frame.env.globals[index]?
      let value ← orTrap .malformed (← get).globals[ref.address]?
      pure (value :: stack)
  | .globalSet index, value :: rest => do
      let ref ← orTrap .malformed frame.env.globals[index]?
      setGlobal ref.address value
      pure rest
  | .i32Add, .i32 right :: .i32 left :: rest => pure (.i32 (left + right) :: rest)
  | .i32DivS, .i32 right :: .i32 left :: rest => do
      let quotient ← signedQuotient left right
      pure (quotient :: rest)
  | .i32DivU, .i32 right :: .i32 left :: rest =>
      if right = 0 then throw .divideByZero else pure (.i32 (left.udiv right) :: rest)
  | .i32RemS, .i32 right :: .i32 left :: rest =>
      if right = 0 then throw .divideByZero else pure (.i32 (left.srem right) :: rest)
  | .i64RemU, .i64 right :: .i64 left :: rest =>
      if right = 0 then throw .divideByZero else pure (.i64 (left.umod right) :: rest)
  | .f64Add, .f64 right :: .f64 left :: rest =>
      pure (arithmetic64 Number.addBits left right :: rest)
  | .f64Mul, .f64 right :: .f64 left :: rest =>
      pure (arithmetic64 Number.mulBits left right :: rest)
  | .f64Div, .f64 right :: .f64 left :: rest =>
      pure (arithmetic64 Number.divBits left right :: rest)
  | .i32TruncF64S, .f64 bits :: rest => do
      let whole ← truncated bits
      pure (whole :: rest)
  | .i32Load, .i32 offset :: rest => do
      let bytes ← readMemory frame.env offset.toNat 4
      pure (.i32 (BitVec.ofNat 32 (littleEndian bytes)) :: rest)
  | .i32Load8U, .i32 offset :: rest => do
      let bytes ← readMemory frame.env offset.toNat 1
      pure (.i32 (BitVec.ofNat 32 (littleEndian bytes)) :: rest)
  | .i32Store, .i32 word :: .i32 offset :: rest => do
      let ref ← orTrap .malformed frame.env.memories[0]?
      writeMemory ref.address offset.toNat (bytesOf word)
      pure rest
  | .memorySize, stack => do
      let ref ← orTrap .malformed frame.env.memories[0]?
      pure (.i32 (BitVec.ofNat 32 ((← get).pagesAt ref.address)) :: stack)
  | .memoryGrow, .i32 pages :: rest => do
      let ref ← orTrap .malformed frame.env.memories[0]?
      match ← growMemory ref pages.toNat with
      | some before => pure (.i32 (BitVec.ofNat 32 before) :: rest)
      | none => pure (.i32 (-1) :: rest)
  | _, _ => throw .malformed

def runBody (call : FuncRef → List Value → Exec (List Value)) (frame : Frame) :
    List Instr → List Value → Exec (List Value)
  | [], stack => pure stack
  | instr :: rest, stack => do
      let next ← step call frame instr stack
      runBody call frame rest next

def wrongAnswer (expected : List ValType) (values : List Value) : String :=
  "Dynamic function returned wrong signature. Expected " ++ ValType.listText expected
    ++ " but got Map \x7b iter: Iter([" ++ ", ".intercalate (values.map Value.typedText)
    ++ "]) \x7d"

/-- A host's answer. Values of other types than the declared results are refused. -/
def answerCall (type : FuncType) (args : List Value) : HostAnswer → Exec (List Value)
  | .trap message => throw (.host message)
  | .echo => checked args
  | .values results => checked results
where
  checked (values : List Value) : Exec (List Value) :=
    if values.map Value.type = type.results then pure values
    else throw (.host (wrongAnswer type.results values))

/-- Calls a function with arguments of its parameter types, `depth` calls deep at most. -/
def invoke : Nat → FuncRef → List Value → Exec (List Value)
  | 0, _, _ => throw .stackExhausted
  | depth + 1, func, args => do
      let inst ← orTrap .malformed (← get).funcs[func.address]?
      match inst.body with
      | .host name answer =>
          modify fun store => { store with calls := store.calls ++ [⟨name, args⟩] }
          answerCall inst.type args answer
      | .standIn message => throw (.host message)
      | .code locals body env =>
          let frame : Frame := ⟨args ++ locals.map Value.zero, env⟩
          let stack ← runBody (invoke depth) frame body []
          let (results, _) ← popMany inst.type.results.length stack
          pure results

def callDepth : Nat := 65000

def callFunc (func : FuncRef) (args : List Value) : Exec (List Value) :=
  invoke callDepth func args

end Exec

end Linkage
