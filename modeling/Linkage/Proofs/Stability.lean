import Linkage.Proofs.Run

/-!
What later states of a linker keep of earlier ones. A bound key stays bound whatever is done, so a
module's unresolved imports only grow fewer. While redefinitions are refused, every key keeps the
value it was bound to first, and a module that resolves goes on to resolve to the same values: what
changes at run time, the sizes of memories and the values of globals, has no say in whether a value
may stand for an import.
-/

namespace Linkage

/-- A value is accepted for an import by what never changes about it, in whatever state its store
is. -/
theorem ExternType.accepts_typeOf (expected : ExternType) (before after : Store) (item : Item) :
    expected.accepts (before.typeOf item) = expected.accepts (after.typeOf item) := by
  cases expected <;> cases item <;> rfl

theorem Namespace.contains_put {ns : Namespace} {module name : String}
    (bound : ns.contains module name = true) (other otherName : String) (value : Extern) :
    (ns.put other otherName value).contains module name = true := by
  unfold Namespace.contains at bound ⊢
  by_cases same : (module, name) = (other, otherName)
  · cases same
    rw [Namespace.get?_put_self]
    rfl
  · rw [Namespace.get?_put_of_ne ns same value]
    exact bound

namespace Linker

def KeepsValues (before after : Linker) : Prop :=
  ∀ module name value, before.get? module name = some value → after.get? module name = some value

/-- The setting for redefinitions is as it was, and if it refuses them, bindings are too. -/
structure Stable (before after : Linker) : Prop where
  shadowing : after.shadowing = before.shadowing
  values : before.shadowing = .reject → KeepsValues before after

theorem Stable.refl (linker : Linker) : Stable linker linker :=
  ⟨rfl, fun _ _ _ _ found => found⟩

theorem Stable.trans {first second third : Linker} (earlier : Stable first second)
    (later : Stable second third) : Stable first third where
  shadowing := later.shadowing.trans earlier.shadowing
  values := by
    intro rejects module name value found
    have middle := earlier.values rejects module name value found
    exact later.values (earlier.shadowing.trans rejects) module name value middle

theorem Step.stable {before after : Linker} (step : Step before after) : Stable before after := by
  cases step with
  | @bind module name _ _ isOpen =>
      refine ⟨rfl, ?_⟩
      intro rejects other otherName value found
      -- The key that was bound was free, so it is not the one that was found.
      have differs : (other, otherName) ≠ (module, name) := by
        intro same
        cases same
        have free := isOpen rejects
        rw [Namespace.contains, Option.isSome_eq_false_iff, Option.isNone_iff_eq_none] at free
        rw [Linker.get?, free] at found
        cases found
      exact (Namespace.get?_put_of_ne before.registry differs _).trans found
  | extend _ => exact ⟨rfl, fun _ _ _ _ found => found⟩
  | trace _ => exact ⟨rfl, fun _ _ _ _ found => found⟩

theorem Steps.stable {before after : Linker} (steps : Steps before after) :
    Stable before after := by
  induction steps with
  | refl => exact Stable.refl before
  | tail _ step ih => exact ih.trans step.stable

theorem Operation.get?_configure (linker : Linker) (operation : Operation)
    (module name : String) :
    (operation.configure linker).get? module name = linker.get? module name := by
  cases operation with
  | apply files manifest =>
      simp only [Operation.configure, Manifest.applyShadowing]
      split <;> rfl
  | _ => rfl

/-- An operation after which redefinitions are refused has refused them all along, since it can
make the setting only before it does anything else. -/
theorem Operation.keepsValues {linker : Linker} {operation : Operation}
    (rejects : (operation.perform linker).shadowing = .reject) :
    KeepsValues linker (operation.perform linker) := by
  have stable := (operation.perform_steps linker).stable
  intro module name value found
  rw [← Operation.get?_configure linker operation] at found
  exact stable.values (stable.shadowing.symm.trans rejects) module name value found

/-- Redefinitions are refused at the start of a run and after each of its operations. -/
def Refuses (linker : Linker) : List Operation → Prop
  | [] => linker.shadowing = .reject
  | operation :: rest =>
      linker.shadowing = .reject ∧ (operation.perform linker).Refuses rest

theorem Refuses.start {linker : Linker} {operations : List Operation}
    (refuses : linker.Refuses operations) : linker.shadowing = .reject := by
  cases operations with
  | nil => exact refuses
  | cons operation rest => exact refuses.1

theorem run_keepsValues {linker : Linker} {operations : List Operation}
    (refuses : linker.Refuses operations) : KeepsValues linker (linker.run operations) := by
  induction operations generalizing linker with
  | nil => exact fun _ _ _ found => found
  | cons operation rest ih =>
      intro module name value found
      have performed := Operation.keepsValues refuses.2.start module name value found
      exact ih refuses.2 module name value performed

theorem run_contains {linker : Linker} {module name : String}
    (bound : linker.registry.contains module name = true) (operations : List Operation) :
    (linker.run operations).registry.contains module name = true := by
  have stepKeeps : ∀ {before after : Linker}, Step before after →
      before.registry.contains module name = true →
      after.registry.contains module name = true := by
    intro before after step held
    cases step with
    | bind _ _ => exact Namespace.contains_put held _ _ _
    | extend _ => exact held
    | trace _ => exact held
  exact run_induction stepKeeps (fun _ _ held => held) bound operations

theorem unresolvedImports_sublist {before after : Linker}
    (keeps : ∀ module name, before.registry.contains module name = true →
      after.registry.contains module name = true) (m : Module) :
    (after.unresolvedImports m).Sublist (before.unresolvedImports m) := by
  refine List.monotone_filter_right m.imports ?_
  intro i unbound
  simp only [Bool.not_eq_true'] at unbound ⊢
  exact Bool.not_eq_true _ ▸ fun bound => Bool.false_ne_true (unbound ▸ keeps _ _ bound)

theorem resolve_of_keepsValues {before after : Linker} (keeps : KeepsValues before after)
    {m : Module} {values : List Extern} (resolved : before.resolve m = .ok values) :
    after.resolve m = .ok values := by
  have fitting := resolveImports_eq_ok_iff.mp resolved
  refine resolveImports_eq_ok_iff.mpr (fitting.imp ?_)
  intro i value fits
  refine ⟨keeps _ _ _ fits.bound, ?_⟩
  rw [← fits.compatible]
  exact i.type.accepts_typeOf after.store before.store value.item

/-- After any operations from any state on, every key that was bound is bound, and of the imports
of a module that were unresolved some are left, in the same order. If redefinitions were refused
throughout, every key that was bound has the value it had, and every module that resolved resolves
to the values it did. -/
theorem run_keeps_resolution (linker : Linker) (operations : List Operation) :
    let later := linker.run operations
    (∀ module name, linker.registry.contains module name = true →
      later.registry.contains module name = true) ∧
    (∀ m, (later.unresolvedImports m).Sublist (linker.unresolvedImports m)) ∧
    (linker.Refuses operations →
      (∀ module name value, linker.get? module name = some value →
        later.get? module name = some value) ∧
      ∀ m values, linker.resolve m = .ok values → later.resolve m = .ok values) := by
  intro later
  have keepsKeys : ∀ module name, linker.registry.contains module name = true →
      later.registry.contains module name = true :=
    fun module name bound => run_contains bound operations
  refine ⟨keepsKeys, fun m => unresolvedImports_sublist keepsKeys m, ?_⟩
  intro refuses
  have keeps : KeepsValues linker later := run_keepsValues refuses
  exact ⟨keeps, fun m values resolved => resolve_of_keepsValues keeps resolved⟩

/-- A memory that grows, a refused second definition of its key, and a manifest that binds the
memory to another key and then fails: the module that imported the memory still gets it. -/
theorem run_keeps_grown_memory :
    let memory : Extern := ⟨0, .memory ⟨0, none, false⟩⟩
    let other : Extern := ⟨0, .memory ⟨1, some 4, false⟩⟩
    let linker := (new { id := 0, memories := [Memory.empty 1, Memory.empty 4] }).run
      [.define "env" "memory" memory]
    let operations : List Operation := [.onStore (.growMemory ⟨0, none, false⟩ 3),
      .define "env" "memory" other,
      .apply (fun _ => .error .notFound)
        { aliases := [⟨"lib", "memory", "env", "memory"⟩], main := some "main.wat" }]
    let m : Module := { imports := [⟨"env", "memory", .memory ⟨1, none, false⟩⟩] }
    linker.Refuses operations ∧ linker.resolve m = .ok [memory] ∧
      (linker.run operations).resolve m = .ok [memory] ∧
      (linker.run operations).store.pagesAt 0 = 4 := by
  intro memory other linker operations m
  have refuses : linker.Refuses operations := ⟨rfl, rfl, rfl, rfl⟩
  have resolved : linker.resolve m = .ok [memory] := rfl
  have kept := (run_keeps_resolution linker operations).2.2 refuses
  exact ⟨refuses, resolved, kept.2 m [memory] resolved, rfl⟩

end Linker

end Linkage
