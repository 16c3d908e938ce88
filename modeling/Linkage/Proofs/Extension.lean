import Linkage.Embedding
import Linkage.Proofs.Instance
import Linkage.Proofs.Moves

/-!
How a store changes while programs run. Nothing is removed from it: functions and recorded calls
are only appended, memories keep their places and never shrink, tables keep their places and
their sizes. Running code, making an instance and each access of the embedding program extend the
store in this sense, also when they fail.
-/

namespace Linkage

structure Store.Extends (before after : Store) : Prop where
  id : after.id = before.id
  funcs : before.funcs <+: after.funcs
  globals : before.globals.length ≤ after.globals.length
  memories : ∀ (address : Nat) (memory : Memory), before.memories[address]? = some memory →
    ∃ grown, after.memories[address]? = some grown ∧ memory.pages ≤ grown.pages
  tables : ∀ (address : Nat) (table : Table), before.tables[address]? = some table →
    ∃ kept, after.tables[address]? = some kept ∧ kept.size = table.size
  tags : before.tags ≤ after.tags
  calls : before.calls <+: after.calls

namespace Store.Extends

theorem rfl {store : Store} : store.Extends store where
  id := Eq.refl store.id
  funcs := List.prefix_refl store.funcs
  globals := Nat.le_refl _
  memories := fun _ memory found => ⟨memory, found, Nat.le_refl _⟩
  tables := fun _ table found => ⟨table, found, Eq.refl _⟩
  tags := Nat.le_refl _
  calls := List.prefix_refl store.calls

theorem trans {first second third : Store} (earlier : first.Extends second)
    (later : second.Extends third) : first.Extends third where
  id := later.id.trans earlier.id
  funcs := earlier.funcs.trans later.funcs
  globals := Nat.le_trans earlier.globals later.globals
  memories := by
    intro address memory found
    obtain ⟨grown, foundGrown, pages⟩ := earlier.memories address memory found
    obtain ⟨last, foundLast, more⟩ := later.memories address grown foundGrown
    exact ⟨last, foundLast, Nat.le_trans pages more⟩
  tables := by
    intro address table found
    obtain ⟨kept, foundKept, size⟩ := earlier.tables address table found
    obtain ⟨last, foundLast, same⟩ := later.tables address kept foundKept
    exact ⟨last, foundLast, same.trans size⟩
  tags := Nat.le_trans earlier.tags later.tags
  calls := earlier.calls.trans later.calls

theorem getElem?_funcs {before after : Store} (larger : before.Extends after) {address : Nat}
    {func : FuncInst} (found : before.funcs[address]? = some func) :
    after.funcs[address]? = some func := by
  obtain ⟨more, appended⟩ := larger.funcs
  have inside : address < before.funcs.length := (List.getElem?_eq_some_iff.mp found).1
  rw [← appended, List.getElem?_append_left inside, found]

instance : Std.Refl Store.Extends := ⟨fun _ => rfl⟩

instance : Trans Store.Extends Store.Extends Store.Extends := ⟨trans⟩

end Store.Extends

namespace Store

theorem extends_record (store : Store) (call : HostCall) :
    store.Extends { store with calls := store.calls ++ [call] } :=
  { (Extends.rfl : store.Extends store) with calls := List.prefix_append store.calls [call] }

theorem extends_setGlobal (store : Store) (address : Nat) (value : Value) :
    store.Extends { store with globals := store.globals.set address value } :=
  { (Extends.rfl : store.Extends store) with globals := by simp }

theorem extends_setMemory {store : Store} {address : Nat} {memory written : Memory}
    (found : store.memories[address]? = some memory) (pages : memory.pages ≤ written.pages) :
    store.Extends { store with memories := store.memories.set address written } := by
  refine { (Extends.rfl : store.Extends store) with memories := ?_ }
  intro other previous foundOther
  by_cases same : address = other
  · subst same
    have equal : memory = previous := Option.some.inj (found.symm.trans foundOther)
    have inside : address < store.memories.length := (List.getElem?_eq_some_iff.mp found).1
    exact ⟨written, by simp [inside], equal ▸ pages⟩
  · exact ⟨previous, by simpa [List.getElem?_set_ne same] using foundOther, Nat.le_refl _⟩

theorem extends_setTable {store : Store} {address : Nat} {table written : Table}
    (found : store.tables[address]? = some table) (size : written.size = table.size) :
    store.Extends { store with tables := store.tables.set address written } := by
  refine { (Extends.rfl : store.Extends store) with tables := ?_ }
  intro other previous foundOther
  by_cases same : address = other
  · subst same
    have equal : table = previous := Option.some.inj (found.symm.trans foundOther)
    have inside : address < store.tables.length := (List.getElem?_eq_some_iff.mp found).1
    exact ⟨written, by simp [inside], equal ▸ size⟩
  · exact ⟨previous, by simpa [List.getElem?_set_ne same] using foundOther, rfl⟩

theorem extends_append (store : Store) (funcs : List FuncInst) (globals : List Value)
    (memories : List Memory) (tables : List Table) (tags : Nat) :
    store.Extends { store with
      funcs := store.funcs ++ funcs
      globals := store.globals ++ globals
      memories := store.memories ++ memories
      tables := store.tables ++ tables
      tags := store.tags + tags } where
  id := rfl
  funcs := List.prefix_append store.funcs funcs
  globals := by simp
  memories := by
    intro address memory found
    have inside : address < store.memories.length := (List.getElem?_eq_some_iff.mp found).1
    exact ⟨memory, by simpa [List.getElem?_append_left inside] using found, Nat.le_refl _⟩
  tables := by
    intro address table found
    have inside : address < store.tables.length := (List.getElem?_eq_some_iff.mp found).1
    exact ⟨table, by simpa [List.getElem?_append_left inside] using found, rfl⟩
  tags := Nat.le_add_right _ _
  calls := List.prefix_refl store.calls

theorem extends_addFunc (store : Store) (func : FuncInst) :
    store.Extends (store.addFunc func).2 := by
  simpa [addFunc] using store.extends_append [func] [] [] [] 0

theorem extends_addGlobal (store : Store) (type : GlobalType) (value : Value) :
    store.Extends (store.addGlobal type value).2 := by
  simpa [addGlobal] using store.extends_append [] [value] [] [] 0

theorem extends_addMemory (store : Store) (type : MemoryType) :
    store.Extends (store.addMemory type).2 := by
  simpa [addMemory] using store.extends_append [] [] [Memory.empty type.min] [] 0

theorem extends_addTable (store : Store) (type : TableType) :
    store.Extends (store.addTable type).2 := by
  simpa [addTable] using store.extends_append [] [] [] [Table.empty type.min] 0

theorem extends_addTag (store : Store) (type : TagType) :
    store.Extends (store.addTag type).2 := by
  simpa [addTag] using store.extends_append [] [] [] [] 1

end Store

theorem Memory.pages_write {memory written : Memory} {offset : Nat} {bytes : List UInt8}
    (success : memory.write offset bytes = some written) : written.pages = memory.pages := by
  unfold Memory.write at success
  split at success
  · cases success
    rfl
  · cases success

theorem Memory.pages_le_grow {memory grown : Memory} {max : Option Nat} {pages : Nat}
    (success : memory.grow max pages = some grown) : memory.pages ≤ grown.pages := by
  unfold Memory.grow at success
  split at success
  · cases success
    exact Nat.le_add_right _ _
  · cases success

theorem Table.size_write {table written : Table} {offset : Nat} {funcs : List FuncRef}
    (success : table.write offset funcs = some written) : written.size = table.size := by
  unfold Table.write at success
  split at success
  · cases success
    rfl
  · cases success

/-! Running code. A call nests the runs of other functions, so the run of a body is followed for
any meaning of a call that itself extends the store, and then by the depth of the nesting. -/

namespace Exec

theorem orTrap_extends {α : Type} (trap : Trap) (found : Option α) :
    Moves Store.Extends (orTrap trap found) := by
  cases found with
  | none => exact moves_throw trap
  | some value => exact moves_pure value

theorem popMany_extends (count : Nat) (stack : List Value) :
    Moves Store.Extends (popMany count stack) := by
  exact moves_ite (moves_pure _) (moves_throw _)

theorem signedQuotient_extends (left right : BitVec 32) :
    Moves Store.Extends (signedQuotient left right) := by
  exact moves_ite (moves_throw _) (moves_ite (moves_throw _) (moves_pure _))

theorem truncated_extends (bits : BitVec 64) : Moves Store.Extends (truncated bits) := by
  unfold truncated
  split
  · exact moves_throw _
  · exact moves_throw _
  · exact moves_ite (moves_pure _) (moves_throw _)

/-- What follows a lookup may use what was found. -/
theorem orTrap_bind_extends {α β : Type} {trap : Trap} {found : Option α} {rest : α → Exec β}
    {store : Store}
    (restExtends : ∀ value, found = some value →
      store.Extends (stateAfter (rest value) store)) :
    store.Extends (stateAfter (orTrap trap found >>= rest) store) := by
  cases found with
  | none => exact Store.Extends.rfl
  | some value => exact restExtends value rfl

theorem readMemory_extends (env : Env) (offset count : Nat) :
    Moves Store.Extends (readMemory env offset count) := by
  refine moves_bind (orTrap_extends _ _) fun ref => moves_get_bind fun store => ?_
  exact orTrap_bind_extends fun memory _ => orTrap_extends _ _ store

theorem writeMemory_extends (address offset : Nat) (bytes : List UInt8) :
    Moves Store.Extends (writeMemory address offset bytes) := by
  refine moves_get_bind fun store => ?_
  refine orTrap_bind_extends fun memory found => orTrap_bind_extends fun written success => ?_
  exact Store.extends_setMemory found (Nat.le_of_eq (Memory.pages_write success).symm)

theorem writeTable_extends (address offset : Nat) (funcs : List FuncRef) :
    Moves Store.Extends (writeTable address offset funcs) := by
  refine moves_get_bind fun store => ?_
  refine orTrap_bind_extends fun table found => orTrap_bind_extends fun written success => ?_
  exact Store.extends_setTable found (Table.size_write success)

theorem growMemory_extends (ref : MemoryRef) (pages : Nat) :
    Moves Store.Extends (growMemory ref pages) := by
  refine moves_get_bind fun store => orTrap_bind_extends fun memory found => ?_
  cases success : memory.grow ref.max pages with
  | none => exact Store.Extends.rfl
  | some grown => exact Store.extends_setMemory found (Memory.pages_le_grow success)

theorem setGlobal_extends (address : Nat) (value : Value) :
    Moves Store.Extends (setGlobal address value) :=
  moves_modify fun store => store.extends_setGlobal address value

theorem answerCall_extends (type : FuncType) (args : List Value) (answer : HostAnswer) :
    Moves Store.Extends (answerCall type args answer) := by
  have checkedExtends (values : List Value) :
      Moves Store.Extends (answerCall.checked type values) :=
    moves_ite (moves_pure _) (moves_throw _)
  cases answer with
  | trap message => exact moves_throw _
  | echo => exact checkedExtends args
  | values results => exact checkedExtends results

section
variable {call : FuncRef → List Value → Exec (List Value)}

theorem callPopped_extends (calls : ∀ func args, Moves Store.Extends (call func args))
    (func : FuncRef) (count : Nat) (stack : List Value) :
    Moves Store.Extends (do
      let (args, rest) ← popMany count stack
      let results ← call func args
      pure (results.reverse ++ rest)) :=
  moves_bind (popMany_extends count stack) fun popped =>
    moves_bind (calls func popped.1) fun _ => moves_pure _

theorem step_extends (calls : ∀ func args, Moves Store.Extends (call func args))
    (frame : Frame) (instr : Instr) (stack : List Value) :
    Moves Store.Extends (step call frame instr stack) := by
  unfold step
  split
  · exact moves_pure _
  · exact moves_throw _
  · exact moves_pure _
  · exact moves_pure _
  · exact moves_bind (orTrap_extends _ _) fun func => callPopped_extends calls func _ _
  · -- An indirect call looks into the store before it calls.
    refine moves_bind (orTrap_extends _ _) fun ref => moves_get_bind fun store => ?_
    refine orTrap_bind_extends fun table _ => ?_
    refine moves_ite (moves_throw_bind _ _) (moves_bind (orTrap_extends _ _) fun func => ?_) store
    exact moves_ite (moves_throw_bind _ _) (callPopped_extends calls func _ _)
  · exact moves_bind (orTrap_extends _ _) fun _ => moves_pure _
  · refine moves_bind (orTrap_extends _ _) fun ref => moves_get_bind fun store => ?_
    exact orTrap_bind_extends fun value _ => moves_pure _ store
  · exact moves_bind (orTrap_extends _ _) fun ref =>
      moves_bind (setGlobal_extends _ _) fun _ => moves_pure _
  · exact moves_pure _
  · exact moves_bind (signedQuotient_extends _ _) fun _ => moves_pure _
  · exact moves_ite (moves_throw _) (moves_pure _)
  · exact moves_ite (moves_throw _) (moves_pure _)
  · exact moves_ite (moves_throw _) (moves_pure _)
  · exact moves_pure _
  · exact moves_pure _
  · exact moves_pure _
  · exact moves_bind (truncated_extends _) fun _ => moves_pure _
  · exact moves_bind (readMemory_extends _ _ _) fun _ => moves_pure _
  · exact moves_bind (readMemory_extends _ _ _) fun _ => moves_pure _
  · exact moves_bind (orTrap_extends _ _) fun ref =>
      moves_bind (writeMemory_extends _ _ _) fun _ => moves_pure _
  · refine moves_bind (orTrap_extends _ _) fun ref => moves_get_bind fun store => ?_
    exact moves_pure _ store
  · refine moves_bind (orTrap_extends _ _) fun ref =>
      moves_bind (growMemory_extends _ _) fun before => ?_
    cases before with
    | none => exact moves_pure _
    | some pages => exact moves_pure _
  · -- No instruction takes the stack as it is.
    exact moves_throw _

theorem runBody_extends (calls : ∀ func args, Moves Store.Extends (call func args))
    (frame : Frame) (body : List Instr) (stack : List Value) :
    Moves Store.Extends (runBody call frame body stack) := by
  induction body generalizing stack with
  | nil => exact moves_pure stack
  | cons instr rest ih => exact moves_bind (step_extends calls frame instr stack) ih

end

theorem invoke_extends (depth : Nat) (func : FuncRef) (args : List Value) :
    Moves Store.Extends (invoke depth func args) := by
  induction depth generalizing func args with
  | zero => exact moves_throw _
  | succ depth ih =>
      -- Every call in the body is one level deeper, where the hypothesis speaks of any function.
      refine moves_get_bind fun store => orTrap_bind_extends fun inst _ => ?_
      obtain ⟨type, body⟩ := inst
      cases body with
      | host name answer =>
          exact moves_bind (moves_modify fun store => store.extends_record ⟨name, args⟩)
            (fun _ => answerCall_extends type args answer) store
      | standIn message => exact moves_throw _ store
      | code locals body env =>
          exact moves_bind (runBody_extends ih _ body [])
            (fun stack => moves_bind (popMany_extends _ stack) fun _ => moves_pure _) store

theorem callFunc_extends (func : FuncRef) (args : List Value) :
    Moves Store.Extends (callFunc func args) :=
  invoke_extends callDepth func args

end Exec

theorem extends_addGlobals (store : Store) (refs : List GlobalRef) (globals : List GlobalDef) :
    store.Extends (addGlobals store refs globals).2 := by
  induction globals generalizing store refs with
  | nil => exact Store.Extends.rfl
  | cons global rest ih => exact (store.extends_addGlobal global.type _).trans (ih _ _)

theorem Module.extends_allocate (m : Module) (values : List Extern) (store : Store) :
    store.Extends (m.allocate values store).2 := by
  have globals := extends_addGlobals store (Env.ofImports values).globals m.globals
  have appended := store.extends_append [] [] (m.memories.map fun type => Memory.empty type.min)
    (m.tables.map fun type => Table.empty type.min) 0
  exact { globals with
    funcs := List.prefix_append _ _
    memories := appended.memories
    tables := appended.tables }

theorem Module.populate_extends (m : Module) (env : Env) :
    Moves Store.Extends (m.populate env) := by
  have elementsExtend (segment : ElementSegment) :
      Moves Store.Extends (env.writeElements segment) :=
    moves_bind (Exec.orTrap_extends _ _) fun ref =>
      moves_bind (Exec.orTrap_extends _ _) fun funcs => Exec.writeTable_extends _ _ funcs
  have datasExtend (segment : DataSegment) : Moves Store.Extends (env.writeData segment) :=
    moves_bind (Exec.orTrap_extends _ _) fun ref => Exec.writeMemory_extends _ _ _
  have startExtends : Moves Store.Extends (env.runStart m.start) := by
    cases m.start with
    | none => exact moves_pure _
    | some index =>
        exact moves_bind (Exec.orTrap_extends _ _) fun func =>
          moves_bind (Exec.callFunc_extends func []) fun _ => moves_pure _
  exact moves_bind (moves_forM elementsExtend m.elements) fun _ =>
    moves_bind (moves_forM datasExtend m.datas) fun _ => startExtends

theorem Module.instantiate_extends (m : Module) (values : List Extern) :
    Moves Store.Extends (m.instantiate values) := by
  intro store
  have allocated := m.extends_allocate values store
  have populated := m.populate_extends (m.allocate values store).1 (m.allocate values store).2
  have outcome := m.instantiated values store
  unfold stateAfter
  generalize m.instantiate values store = result at outcome
  cases outcome with
  | refused checked => exact Store.Extends.rfl
  | trapped checked ended =>
      rw [stateAfter_eq_of_error ended] at populated
      exact allocated.trans populated
  | made checked ended =>
      rw [stateAfter_eq_of_ok ended] at populated
      exact allocated.trans populated

namespace Access

theorem refuse_extends (fault : Option AccessError) : Moves Store.Extends (refuse fault) := by
  cases fault with
  | none => exact moves_pure _
  | some error => exact moves_throw error

theorem create_extends {ρ : Type} (item : ρ → Item) {add : Store → ρ × Store}
    (adds : ∀ store : Store, store.Extends (add store).2) :
    Moves Store.Extends (create item add) :=
  fun store => adds store

theorem newFunc_extends (func : FuncInst) : Moves Store.Extends (newFunc func) :=
  create_extends _ fun store => store.extends_addFunc func

theorem newGlobal_extends (type : GlobalType) (value : Value) :
    Moves Store.Extends (newGlobal type value) :=
  create_extends _ fun store => store.extends_addGlobal type value

theorem newMemory_extends (type : MemoryType) : Moves Store.Extends (newMemory type) :=
  moves_bind (refuse_extends _) fun _ => create_extends _ fun store => store.extends_addMemory type

theorem newTable_extends (type : TableType) : Moves Store.Extends (newTable type) :=
  moves_bind (refuse_extends _) fun _ => create_extends _ fun store => store.extends_addTable type

theorem newTag_extends (type : TagType) : Moves Store.Extends (newTag type) :=
  create_extends _ fun store => store.extends_addTag type

theorem setGlobal_extends (ref : GlobalRef) (value : Value) :
    Moves Store.Extends (setGlobal ref value) :=
  moves_ite (moves_throw _) (moves_ite (moves_throw _)
    (moves_adaptExcept (Exec.setGlobal_extends _ _) _))

theorem growMemory_extends (ref : MemoryRef) (pages : Nat) :
    Moves Store.Extends (growMemory ref pages) := by
  refine moves_bind (moves_adaptExcept (Exec.growMemory_extends _ _) _) fun before => ?_
  cases before with
  | none => exact moves_get_bind fun store => moves_throw _ store
  | some pages => exact moves_pure _

theorem call_extends (func : FuncRef) (args : List Value) :
    Moves Store.Extends (call func args) :=
  moves_ite (moves_throw _) (moves_adaptExcept (Exec.callFunc_extends func args) _)

end Access

end Linkage
