import Linkage.Proofs.Alongside
import Linkage.Proofs.Run

/-!
What instantiating a module depends on: the store and the bindings of the keys that the module
imports. Two linkers that agree on these may differ in all else, in the other bindings and in the
setting for redefinitions, and nothing that the instantiation gives or does shows the difference.
-/

namespace Linkage.Linker

structure AgreeOn (imports : List Import) (first second : Linker) : Prop where
  engine : first.engine = second.engine
  store : first.store = second.store
  bindings : ∀ i ∈ imports, first.get? i.module i.name = second.get? i.module i.name

theorem AgreeOn.resolve_eq {m : Module} {first second : Linker}
    (agree : AgreeOn m.imports first second) : first.resolve m = second.resolve m := by
  refine resolveImports_congr ?_ agree.bindings
  intro item
  rw [agree.store]

theorem instantiate_agree (m : Module) :
    Alongside (AgreeOn m.imports) Eq (instantiate m) (instantiate m) := by
  apply instantiate_alongside
  · exact fun _ _ agree => agree.engine
  · exact fun _ _ agree => agree.store
  · exact fun _ _ agree => agree.resolve_eq
  · exact fun _ _ _ agree => ⟨agree.engine, agree.store, agree.bindings⟩
  · exact fun _ _ _ agree => ⟨agree.engine, agree.store, agree.bindings⟩
  · exact fun _ _ _ agree => ⟨agree.engine, rfl, agree.bindings⟩

def Makes {ε α : Type} (action : Linking ε α) (linker : Linker) (calls : List HostCall) : Prop :=
  (stateAfter action linker).store.calls = linker.store.calls ++ calls

theorem instantiate_makes (m : Module) (linker : Linker) :
    ∃ calls, Makes (instantiate m) linker calls := by
  obtain ⟨calls, extended⟩ := (Steps.extends (instantiate_steps m linker)).calls
  exact ⟨calls, extended.symm⟩

/-- Instantiating a module does the same on two linkers: it gives one instance or fails with one
error, leaves equal stores, makes the same host calls in the same order, and leaves the bindings
and the setting of each linker as they were. -/
structure SameRun (m : Module) (first second : Linker) : Prop where
  results : Matched (fun left right => left.store = right.store) Eq (instantiate m first)
    (instantiate m second)
  calls : ∃ calls, Makes (instantiate m) first calls ∧ Makes (instantiate m) second calls
  firstKept : SameBindings first (stateAfter (instantiate m) first)
  secondKept : SameBindings second (stateAfter (instantiate m) second)

theorem sameRun_of_agree {m : Module} {first second : Linker}
    (agree : AgreeOn m.imports first second) : SameRun m first second := by
  have results := (instantiate_agree m first second agree).imp fun _ _ after => after.store
  obtain ⟨calls, made⟩ := instantiate_makes m first
  refine ⟨results, ⟨calls, made, ?_⟩, instantiate_sameBindings m first,
    instantiate_sameBindings m second⟩
  -- The calls are on record in the stores, which are equal before and after.
  unfold Makes at made ⊢
  rw [← results.stateAfter, ← agree.store]
  exact made

/-- Instantiating a module does the same on all linkers that agree on its imports, so if it has
none, on all linkers of one engine with equal stores. -/
theorem instantiate_sees_imports_only (m : Module) :
    (∀ first second, AgreeOn m.imports first second → SameRun m first second) ∧
    (m.imports = [] → ∀ first second : Linker, first.engine = second.engine →
      first.store = second.store → SameRun m first second) := by
  refine ⟨fun first second agree => sameRun_of_agree agree, ?_⟩
  intro noImports first second engine store
  have agree : AgreeOn m.imports first second := ⟨engine, store, by simp [noImports]⟩
  exact sameRun_of_agree agree

/-- A start function that calls the host and then traps, over two linkers whose registries and
settings differ: one binds the import only, the other one has replaced it once and binds another
key. A module without imports does not even see whether that import is bound. -/
theorem instantiate_sees_no_replaced_binding :
    let tick : Extern := ⟨0, .func ⟨0, ⟨[], []⟩⟩⟩
    let other : Extern := ⟨0, .func ⟨1, ⟨[], []⟩⟩⟩
    let functions : List Operation :=
      [.onStore (.newFunc ⟨⟨[], []⟩, .host "tick" (.values [])⟩),
        .onStore (.newFunc ⟨⟨[], []⟩, .host "other" (.trap "other")⟩)]
    let first := (new { id := 0 }).run (functions ++ [.define "env" "tick" tick])
    let second := (new { id := 0 }).run (functions ++ [.allowShadowing true,
      .define "env" "tick" other, .define "env" "tick" tick, .define "env" "other" other])
    let empty := (new { id := 0 }).run functions
    let m : Module := {
      imports := [⟨"env", "tick", .func ⟨[], []⟩⟩]
      funcs := [⟨⟨[], []⟩, [], [.call 0, .unreachable]⟩]
      start := some 1 }
    AgreeOn m.imports first second ∧ first.registry ≠ second.registry ∧
      first.shadowing ≠ second.shadowing ∧
      (∃ after, instantiate m first = .error (.trap .unreachable) after) ∧
      Makes (instantiate m) second [⟨"tick", []⟩] ∧ SameRun m first second ∧
      SameRun { m with imports := [], start := none } second empty := by
  intro tick other functions first second empty m
  have agree : AgreeOn m.imports first second := ⟨rfl, rfl, by simp [m]; rfl⟩
  have same := (instantiate_sees_imports_only m).1 first second agree
  have quiet := (instantiate_sees_imports_only { m with imports := [], start := none }).2 rfl
    second empty rfl rfl
  obtain ⟨calls, made, madeAgain⟩ := same.calls
  have ticked : [⟨"tick", []⟩] = calls := made
  exact ⟨agree, by decide, by decide, ⟨_, rfl⟩, ticked ▸ madeAgain, same, quiet⟩

end Linkage.Linker
