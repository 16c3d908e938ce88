import Linkage.Instance

/-!
What making an instance can end with. The values for the imports are checked before anything is
added to the store, so a refusal leaves the store as it was. Later faults come from the segments
and the start function, and all of them are traps. An instance exports what its module declares,
under the declared names and in their order, and each exported value is of the store and of the
declared kind.
-/

namespace Linkage

inductive Module.Instantiated (m : Module) (values : List Extern) (store : Store) :
    EStateM.Result EngineError Store Instance → Prop where
  | refused {error : EngineError} (checked : store.checkValues m.imports values = .error error) :
      Instantiated m values store (.error error store)
  | trapped {cause : Trap} {after : Store}
      (checked : store.checkValues m.imports values = .ok ())
      (populated : m.populate (m.allocate values store).1 (m.allocate values store).2
        = .error cause after) :
      Instantiated m values store (.error (.start cause) after)
  | made {after : Store} (checked : store.checkValues m.imports values = .ok ())
      (populated : m.populate (m.allocate values store).1 (m.allocate values store).2
        = .ok () after) :
      Instantiated m values store
        (.ok ⟨store.id, m.exportsOf (m.allocate values store).1 store.id⟩ after)

theorem Module.instantiated (m : Module) (values : List Extern) (store : Store) :
    m.Instantiated values store (m.instantiate values store) := by
  unfold Module.instantiate
  cases checked : store.checkValues m.imports values with
  | error error => exact .refused checked
  | ok =>
      dsimp only
      cases populated : m.populate (m.allocate values store).1 (m.allocate values store).2 with
      | error cause after => exact .trapped checked populated
      | ok value after => exact .made checked populated

/-- With a value for each import, a fault of the check is that of the first value which is not
admitted: its import, the declared type and the value's type now. -/
theorem Store.checkImports_error {store : Store} {imports : List Import} {values : List Extern}
    {error : EngineError} (aligned : imports.length = values.length)
    (checked : store.checkImports imports values = .error error) :
    ∃ i value, (i, value) ∈ imports.zip values ∧ store.admits i.type value.item = false ∧
      error = .atImport i.module i.name (.incompatible i.type (store.typeOf value.item)) := by
  induction imports generalizing values with
  | nil => cases checked
  | cons i rest ih =>
      cases values with
      | nil => cases aligned
      | cons value values =>
          rw [Store.checkImports] at checked
          cases admitted : store.admits i.type value.item with
          | false =>
              simp only [admitted, Bool.false_eq_true, ↓reduceIte, Except.error.injEq] at checked
              exact ⟨i, value, by simp, admitted, checked.symm⟩
          | true =>
              simp only [admitted, ↓reduceIte] at checked
              obtain ⟨j, other, member, fault⟩ := ih (Nat.succ.inj aligned) checked
              exact ⟨j, other, List.mem_cons_of_mem _ member, fault⟩

theorem Store.checkValues_error {store : Store} {imports : List Import} {values : List Extern}
    {error : EngineError} (aligned : imports.length = values.length)
    (checked : store.checkValues imports values = .error error) :
    (error = .differentStores ∧ ∃ value ∈ values, store.owns value = false) ∨
    ∃ i value, (i, value) ∈ imports.zip values ∧ store.admits i.type value.item = false ∧
      error = .atImport i.module i.name (.incompatible i.type (store.typeOf value.item)) := by
  unfold Store.checkValues at checked
  split at checked
  · exact Or.inr (Store.checkImports_error aligned checked)
  · next foreign =>
    refine Or.inl ⟨(Except.error.inj checked).symm, ?_⟩
    simpa using foreign

/-! Index spaces. Values that pass the check are of the kinds that the imports declare, so the
index spaces of an instance are as long as those of its module. -/

def Item.kind? : Item → Option ExternKind
  | .func _ => some .function
  | .global _ => some .global
  | .memory _ => some .memory
  | .table _ => some .table
  | .tag _ => none

theorem Item.kind?_eq_none_iff {item : Item} : item.kind? = none ↔ ∃ ref, item = .tag ref := by
  cases item <;> simp [kind?]

theorem Store.kind?_typeOf (store : Store) (item : Item) :
    (store.typeOf item).kind? = item.kind? := by
  cases item <;> rfl

/-- Imports and values agree in kind, position by position. -/
def Aligned (imports : List Import) (values : List Extern) : Prop :=
  imports.map (fun i => i.type.kind?) = values.map fun value => value.item.kind?

theorem Store.kind?_eq_of_admits {store : Store} {expected : ExternType} {item : Item}
    (admitted : store.admits expected item = true) : expected.kind? = item.kind? := by
  cases item with
  | func ref =>
      have equal : expected = .func ref.type := by simpa [Store.admits] using admitted
      rw [equal]
      rfl
  | global ref =>
      have equal : expected = .global ref.type := by simpa [Store.admits] using admitted
      rw [equal]
      rfl
  | memory ref => cases expected <;> first | rfl | cases admitted
  | table ref => cases expected <;> first | rfl | cases admitted
  | tag ref =>
      have equal : expected = .tag ref.type := by simpa [Store.admits] using admitted
      rw [equal]
      rfl

theorem Store.aligned_of_checkImports {store : Store} {imports : List Import}
    {values : List Extern} (lengths : imports.length = values.length)
    (checked : store.checkImports imports values = .ok ()) : Aligned imports values := by
  induction imports generalizing values with
  | nil =>
      have none : values = [] := List.eq_nil_of_length_eq_zero lengths.symm
      subst none
      rfl
  | cons i rest ih =>
      cases values with
      | nil => cases lengths
      | cons value values =>
          rw [Store.checkImports] at checked
          split at checked
          · next admitted =>
            exact List.cons_eq_cons.mpr
              ⟨Store.kind?_eq_of_admits admitted, ih (Nat.succ.inj lengths) checked⟩
          · cases checked

theorem Store.aligned_of_checkValues {store : Store} {imports : List Import}
    {values : List Extern} (lengths : imports.length = values.length)
    (checked : store.checkValues imports values = .ok ()) : Aligned imports values := by
  unfold Store.checkValues at checked
  split at checked
  · exact Store.aligned_of_checkImports lengths checked
  · cases checked

theorem Aligned.length_filterMap_eq {γ δ : Type} {imports : List Import} {values : List Extern}
    {left : Import → Option γ} {right : Extern → Option δ} (aligned : Aligned imports values)
    (kind : ExternKind) (ofImport : ∀ i, (left i).isSome = (i.type.kind? == some kind))
    (ofValue : ∀ value, (right value).isSome = (value.item.kind? == some kind)) :
    (imports.filterMap left).length = (values.filterMap right).length := by
  have counted := congrArg (List.countP (· == some kind)) aligned
  rw [List.countP_map, List.countP_map] at counted
  rw [List.length_filterMap_eq_countP, List.length_filterMap_eq_countP, funext ofImport,
    funext ofValue]
  exact counted

theorem isSome_getElem?_eq {α β : Type} {first : List α} {second : List β}
    (lengths : first.length = second.length) (index : Nat) :
    first[index]?.isSome = second[index]?.isSome := by
  rw [Bool.eq_iff_iff, isSome_getElem?, isSome_getElem?, lengths]

theorem length_addGlobals (store : Store) (refs : List GlobalRef) (globals : List GlobalDef) :
    (addGlobals store refs globals).1.length = refs.length + globals.length := by
  induction globals generalizing store refs with
  | nil => rfl
  | cons global rest ih =>
      rw [addGlobals, ih]
      simp only [List.length_append, List.length_cons, List.length_nil]
      omega

theorem Module.length_imported {m : Module} {values : List Extern}
    (aligned : Aligned m.imports values) :
    m.importedFuncs.length = (Env.ofImports values).funcs.length ∧
    m.importedGlobals.length = (Env.ofImports values).globals.length ∧
    m.importedMemories.length = (Env.ofImports values).memories.length ∧
    m.importedTables.length = (Env.ofImports values).tables.length := by
  refine ⟨aligned.length_filterMap_eq .function ?_ ?_, aligned.length_filterMap_eq .global ?_ ?_,
    aligned.length_filterMap_eq .memory ?_ ?_, aligned.length_filterMap_eq .table ?_ ?_⟩
  all_goals
    intro part
    first
      | cases part.type <;> rfl
      | cases part.item <;> rfl

theorem Module.isSome_itemAt {m : Module} {values : List Extern}
    (aligned : Aligned m.imports values) (store : Store) (kind : ExternKind) (index : Nat) :
    ((m.allocate values store).1.itemAt kind index).isSome = (m.typeAt kind index).isSome := by
  obtain ⟨funcs, globals, memories, tables⟩ := Module.length_imported aligned
  cases kind with
  | function =>
      simp only [Module.typeAt, Env.itemAt, Module.allocate, Option.isSome_map]
      exact isSome_getElem?_eq (by simp [funcs]) index
  | global =>
      simp only [Module.typeAt, Env.itemAt, Module.allocate, Option.isSome_map]
      exact isSome_getElem?_eq (by simp [globals, length_addGlobals]) index
  | memory =>
      simp only [Module.typeAt, Env.itemAt, Module.allocate, Option.isSome_map]
      exact isSome_getElem?_eq (by simp [memories]) index
  | table =>
      simp only [Module.typeAt, Env.itemAt, Module.allocate, Option.isSome_map]
      exact isSome_getElem?_eq (by simp [tables]) index

/-- What validation promises of a module's exports: their names are distinct, and each stands for
something that the module has. -/
structure Module.ValidExports (m : Module) : Prop where
  distinct : (m.exports.map Export.name).Nodup
  inRange : ∀ e ∈ m.exports, (m.typeAt e.kind e.index).isSome = true

theorem filterMap_eq_map_of_some {α β : Type} {find : α → Option β} {make : α → β}
    {items : List α} (found : ∀ item ∈ items, find item = some (make item)) :
    items.filterMap find = items.map make := by
  induction items with
  | nil => rfl
  | cons first rest ih =>
      rw [List.forall_mem_cons] at found
      rw [List.filterMap_cons, found.1, List.map_cons, ih found.2]

theorem Module.map_fst_exportsOf {m : Module} {values : List Extern} {store : Store}
    (valid : m.ValidExports) (aligned : Aligned m.imports values) (owner : StoreId) :
    (m.exportsOf (m.allocate values store).1 owner).map Prod.fst =
      m.exports.map Export.name := by
  have named : ∀ e ∈ m.exports,
      (((m.allocate values store).1.itemAt e.kind e.index).map fun item =>
        (e.name, (⟨owner, item⟩ : Extern))).map Prod.fst = some e.name := by
    intro e member
    have present := valid.inRange e member
    rw [← Module.isSome_itemAt aligned store] at present
    obtain ⟨item, found⟩ := Option.isSome_iff_exists.mp present
    rw [found]
    rfl
  rw [Module.exportsOf, List.map_filterMap, filterMap_eq_map_of_some named]

theorem Env.kind?_itemAt {env : Env} {kind : ExternKind} {index : Nat} {item : Item}
    (found : env.itemAt kind index = some item) : item.kind? = some kind := by
  cases kind
  all_goals
    obtain ⟨ref, _, equal⟩ := Option.map_eq_some_iff.mp found
    rw [← equal]
    rfl

theorem Module.mem_exportsOf {m : Module} {env : Env} {owner : StoreId}
    {entry : String × Extern} (member : entry ∈ m.exportsOf env owner) :
    entry.2.store = owner ∧ ∃ kind, entry.2.item.kind? = some kind := by
  obtain ⟨e, _, made⟩ := List.mem_filterMap.mp member
  obtain ⟨item, found, equal⟩ := Option.map_eq_some_iff.mp made
  subst equal
  exact ⟨rfl, e.kind, Env.kind?_itemAt found⟩

end Linkage
