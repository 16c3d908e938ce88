import Linkage.Proofs.Ownership

/-!
What the engine can still object to when the imports of a module have resolved. Resolving and the
engine both check each value, but the engine alone looks at the limits of memories and tables.
Everything else it asks for has been checked before, or is promised by the bindings: they are
values of the linker's own store. So an objection is about a memory or a table whose size or
bound is not as the import declares, and the report names that import, its declared type and the
type of its value as it is now.
-/

namespace Linkage

/-- A size is below the declared least one, or it is not bounded as closely as declared. -/
def OutsideLimits (size : Nat) (max : Option Nat) (declaredMin : Nat) (declaredMax : Option Nat) :
    Prop :=
  size < declaredMin ∨ ∃ bound, declaredMax = some bound ∧ ∀ own, max = some own → bound < own

theorem outsideLimits_of_not_within {size : Nat} {max : Option Nat} {declaredMin : Nat}
    {declaredMax : Option Nat} (outside : withinLimits size max declaredMin declaredMax = false) :
    OutsideLimits size max declaredMin declaredMax := by
  unfold withinLimits at outside
  rcases Bool.and_eq_false_iff.mp outside with small | loose
  · exact Or.inl (Nat.lt_of_not_le (of_decide_eq_false small))
  · right
    cases declaredMax with
    | none => cases loose
    | some bound =>
        refine ⟨bound, rfl, ?_⟩
        intro own isMax
        subst isMax
        exact Nat.lt_of_not_le (of_decide_eq_false loose)

/-- A memory or a table does not keep the limits that an import of its kind declares. Whether a
memory is shared counts among its limits. -/
inductive Store.LimitFault (store : Store) : ExternType → Item → Prop where
  | memory {type : MemoryType} {ref : MemoryRef}
      (fault : OutsideLimits (store.pagesAt ref.address) ref.max type.min type.max ∨
        ref.shared ≠ type.shared) :
      LimitFault store (.memory type) (.memory ref)
  | table {type : TableType} {ref : TableRef}
      (fault : OutsideLimits (store.sizeAt ref.address) ref.type.max type.min type.max) :
      LimitFault store (.table type) (.table ref)

theorem Store.LimitFault.kind {store : Store} {expected : ExternType} {item : Item}
    (fault : store.LimitFault expected item) :
    expected.kind? = some .memory ∨ expected.kind? = some .table := by
  cases fault with
  | memory _ => exact Or.inl rfl
  | table _ => exact Or.inr rfl

theorem Store.limitFault_of_refused {store : Store} {expected : ExternType} {item : Item}
    (accepted : expected.accepts (store.typeOf item) = true)
    (refused : store.admits expected item = false) : store.LimitFault expected item := by
  cases item with
  | func ref =>
      -- Equal signatures are all that the engine wants, and acceptance has required them.
      cases expected with
      | func type =>
          have same : type = ref.type := of_decide_eq_true accepted
          simp [Store.admits, same] at refused
      | _ => cases accepted
  | global ref =>
      cases expected with
      | global type =>
          have same : type = ref.type := of_decide_eq_true accepted
          simp [Store.admits, same] at refused
      | _ => cases accepted
  | memory ref =>
      cases expected with
      | memory type =>
          rcases Bool.and_eq_false_iff.mp refused with outside | shared
          · exact .memory (Or.inl (outsideLimits_of_not_within outside))
          · exact .memory (Or.inr (beq_eq_false_iff_ne.mp shared))
      | _ => cases accepted
  | table ref =>
      cases expected with
      | table type =>
          have same : type.element = ref.type.element := of_decide_eq_true accepted
          simp only [Store.admits, same, decide_true, Bool.true_and] at refused
          exact .table (outsideLimits_of_not_within refused)
      | _ => cases accepted
  | tag ref => cases expected <;> cases accepted

namespace Linker

theorem own_of_resolved {store : StoreId} {linker : Linker} (sound : Sound store linker)
    {m : Module} {values : List Extern} (resolved : linker.resolve m = .ok values) :
    ∀ value ∈ values, linker.store.owns value = true := by
  intro value member
  obtain ⟨i, _, fits⟩ := forall₂_mem_right (resolveImports_eq_ok_iff.mp resolved) member
  exact (sound.bindable_of_get? fits.bound).own

/-- A linker that was only ever worked with through its operations fails to instantiate a module
whose imports resolve for one of two reasons. Its code traps, or the value bound to the key of one
of its memory or table imports does not keep the declared limits: then the error has that key, the
declared type and the type that the value has now, and the store is as it was. -/
theorem instantiate_refuses_limits_only (store : Store) (engine : Engine)
    (operations : List Operation) (m : Module) (values : List Extern)
    (resolved : ((new store engine).run operations).resolve m = .ok values) :
    let linker := (new store engine).run operations
    ∀ error after, instantiate m linker = .error error after →
      (∃ cause, error = .trap cause) ∨
      ∃ i ∈ m.imports, ∃ value, linker.get? i.module i.name = some value ∧
        (i.type.kind? = some .memory ∨ i.type.kind? = some .table) ∧
        linker.store.LimitFault i.type value.item ∧
        error = .link (.importTypeMismatch i.module i.name i.type
          (linker.store.typeOf value.item)) ∧
        after.store = linker.store := by
  intro linker error after failed
  have sound : Sound store.id linker := run_sound store engine operations
  have outcome := instantiates m linker
  rw [failed] at outcome
  cases outcome with
  | unresolved unresolved _ =>
      have contrary := unresolved.symm.trans resolved
      cases contrary
  | trapped _ _ _ => exact Or.inl ⟨_, rfl⟩
  | @refused others fault found checked _ =>
      -- The engine was handed the very values that resolved.
      have same : others = values := Except.ok.inj (found.symm.trans resolved)
      subst same
      have fitting := resolveImports_eq_ok_iff.mp resolved
      rcases Store.checkValues_error (length_of_resolved resolved) checked with
        ⟨_, value, member, foreign⟩ | ⟨i, value, member, refused, equal⟩
      · rw [own_of_resolved sound resolved value member] at foreign
        cases foreign
      · have fits := List.forall₂_zip fitting member
        have limits := Store.limitFault_of_refused fits.compatible refused
        subst equal
        exact Or.inr ⟨i, (List.of_mem_zip member).1, value, fits.bound, limits.kind, limits,
          rfl, rfl⟩

/-- A module that wants a global and two pages of memory: both imports resolve, and the memory,
which had one page and has grown to two, is refused for having no bound. -/
theorem instantiate_refuses_unbounded_memory :
    let linker := (new { id := 0 }).run [
      .onStore (.newGlobal ⟨.i32, false⟩ (.i32 5)), .onStore (.newMemory ⟨1, none, false⟩),
      .define "env" "base" ⟨0, .global ⟨0, ⟨.i32, false⟩⟩⟩,
      .define "env" "memory" ⟨0, .memory ⟨0, none, false⟩⟩,
      .onStore (.growMemory ⟨0, none, false⟩ 1)]
    let m : Module := { imports := [⟨"env", "base", .global ⟨.i32, false⟩⟩,
      ⟨"env", "memory", .memory ⟨2, some 4, false⟩⟩] }
    let error : InstantiationError := .link (.importTypeMismatch "env" "memory"
      (.memory ⟨2, some 4, false⟩) (.memory ⟨2, none, false⟩))
    (∃ values, linker.resolve m = .ok values) ∧
      ∃ after, instantiate m linker = .error error after ∧ after.store = linker.store := by
  intro linker m error
  have resolved : linker.resolve m = .ok [⟨0, .global ⟨0, ⟨.i32, false⟩⟩⟩,
      ⟨0, .memory ⟨0, none, false⟩⟩] := rfl
  obtain ⟨after, failed⟩ : ∃ after, instantiate m linker = .error error after := ⟨_, rfl⟩
  refine ⟨⟨_, resolved⟩, after, failed, ?_⟩
  rcases instantiate_refuses_limits_only _ _ _ _ _ resolved error after failed with
    ⟨cause, trapped⟩ | ⟨i, _, value, _, _, _, _, kept⟩
  · simp only [error, reduceCtorEq] at trapped
  · exact kept

end Linker

end Linkage
