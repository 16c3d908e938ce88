import Linkage.Proofs.Batches

/-!
Two ways to register a module. The long one instantiates it and then defines what the instance
exports, so a collision with a binding shows after the start function has run and after the exports
before it have been bound. The other one looks at the names that the module declares before
anything is run. Both report the same collision or bind the same values.
-/

namespace Linkage.Linker

/-- What a batch with distinct names binds under way closes none of its later keys. -/
theorem contains_at_turn {linker : Linker} {module : String} {entries earlier rest : List _}
    {entry : String × Extern} (distinct : (entries.map Prod.fst).Nodup)
    (split : entries = earlier ++ entry :: rest) :
    (linker.bindAll module earlier).registry.contains module entry.1 =
      linker.registry.contains module entry.1 := by
  have others : entry.1 ∉ earlier.map Prod.fst := by
    intro member
    rw [split, List.map_append, List.nodup_append] at distinct
    exact distinct.2.2 entry.1 member entry.1 (by simp) rfl
  rw [Bool.eq_iff_iff, bindAll, Namespace.contains_putAll_iff]
  simp [others, Namespace.contains, Option.isSome_iff_exists]

theorem free_of_admits {linker : Linker} {module : String} {entries : List (String × Extern)}
    (rejects : linker.shadowing = .reject) (distinct : (entries.map Prod.fst).Nodup)
    (admits : linker.Admits module entries) :
    ∀ name ∈ entries.map Prod.fst, ¬ linker.registry.contains module name = true := by
  intro name member
  obtain ⟨entry, inEntries, same⟩ := List.mem_map.mp member
  obtain ⟨earlier, rest, split⟩ := List.append_of_mem inEntries
  have isOpen := (admits earlier entry rest split).2 rejects
  rw [contains_at_turn distinct split] at isOpen
  simp [← same, isOpen]

/-- Values that may be bound, under distinct names: the batch stops at the first name that was
taken before it began, and if there is none it does not stop. -/
theorem defineExports_first_taken (module : String) {linker : Linker}
    {entries : List (String × Extern)} (rejects : linker.shadowing = .reject)
    (bindable : ∀ e ∈ entries, linker.store.Bindable e.2)
    (distinct : (entries.map Prod.fst).Nodup) :
    match defineExports module entries linker with
    | .ok _ _ => (entries.map Prod.fst).find? (linker.registry.contains module) = none
    | .error error _ => ∃ name,
        (entries.map Prod.fst).find? (linker.registry.contains module) = some name ∧
          error = .duplicateDefinition module name := by
  have outcome := batched module entries linker
  generalize defineExports module entries linker = result at outcome
  cases outcome with
  | completed admits trace =>
      exact List.find?_eq_none.mpr (free_of_admits rejects distinct admits)
  | @stopped earlier rest entry error split admits refusal trace =>
      have distinctEarlier : (earlier.map Prod.fst).Nodup := by
        rw [split, List.map_append] at distinct
        exact (List.nodup_append.mp distinct).1
      have free := List.find?_eq_none.mpr (free_of_admits rejects distinctEarlier admits)
      have canBind : linker.store.Bindable entry.2 := bindable entry (by simp [split])
      obtain ⟨rfl, _, taken⟩ := refusal.of_bindable canBind
      rw [contains_at_turn distinct split] at taken
      exact ⟨entry.1, by simp [split, free, taken], rfl⟩

section
variable {module : String} {m : Module} {linker after : Linker}

theorem importFault_of_instantiate {error : LinkError}
    (failed : instantiate m linker = .error (.link error) after) :
    ∃ i ∈ m.imports, error = .unresolvedImport i.module i.name i.type ∨
      ∃ found, error = .importTypeMismatch i.module i.name i.type found := by
  have outcome := instantiates m linker
  rw [failed] at outcome
  generalize wrapped : InstantiationError.link error = whole at outcome
  cases outcome with
  | unresolved unresolved _ =>
      cases wrapped
      obtain ⟨_, i, found, misfit, _⟩ := resolveImports_eq_error_iff.mp unresolved
      refine ⟨i, List.mem_of_getElem? found, ?_⟩
      cases misfit with
      | unresolved _ => exact Or.inl rfl
      | mismatched _ _ => exact Or.inr ⟨_, rfl⟩
  | refused resolved checked _ =>
      rcases Store.checkValues_error (length_of_resolved resolved) checked with
        ⟨rfl, _⟩ | ⟨i, value, member, _, rfl⟩
      · cases wrapped
      · cases wrapped
        exact ⟨i, (List.of_mem_zip member).1, Or.inr ⟨_, rfl⟩⟩
  | trapped _ _ _ => cases wrapped

theorem linkFault_of_long {error : LinkError}
    (failed : instantiateAndDefine module m linker = .error (.link error) after) :
    (∃ i ∈ m.imports, error = .unresolvedImport i.module i.name i.type ∨
      ∃ found, error = .importTypeMismatch i.module i.name i.type found) ∨
    ∃ name, error = .duplicateDefinition module name ∧ linker.shadowing = .reject := by
  rcases instantiateAndDefine_eq_error_iff.mp failed with
    unmade | ⟨inst, made, fault, success, stopped, equal⟩
  · exact Or.inl (importFault_of_instantiate unmade)
  · cases equal
    have kept := instantiate_sameBindings m linker
    rw [stateAfter_eq_of_ok success] at kept
    have outcome := batched module inst.exports made
    unfold defineInstance at stopped
    rw [stopped] at outcome
    cases outcome with
    | @stopped _ _ entry _ split _ refusal _ =>
        have bindable : made.store.Bindable entry.2 :=
          bindable_of_made success entry (by simp [split])
        obtain ⟨duplicate, rejects, _⟩ := refusal.of_bindable bindable
        exact Or.inr ⟨entry.1, duplicate, kept.shadowing.symm.trans rejects⟩

end

variable {module : String} {m : Module} {linker made : Linker} {inst : Instance}

/-- The first declared export whose key is bound is the one that the long way stops at. -/
theorem defineInstance_of_collision {e : Export} (valid : m.ValidExports)
    (rejects : linker.shadowing = .reject) (success : instantiate m linker = .ok inst made)
    (found : linker.collision? module m = some e) :
    ∃ stopped, defineInstance module inst made =
      .error (.duplicateDefinition module e.name) stopped := by
  obtain ⟨names, bindable⟩ := exports_of_made valid success
  have kept := instantiate_sameBindings m linker
  rw [stateAfter_eq_of_ok success] at kept
  have distinct : (inst.exports.map Prod.fst).Nodup := names ▸ valid.distinct
  -- Neither the names nor what was bound to them has changed in between.
  have declared : (inst.exports.map Prod.fst).find? (made.registry.contains module) =
      some e.name := by
    rw [names, kept.registry, List.find?_map]
    exact congrArg (Option.map Export.name) found
  have first := defineExports_first_taken module (kept.shadowing.trans rejects) bindable distinct
  unfold defineInstance
  cases result : defineExports module inst.exports made with
  | ok _ _ =>
      rw [result] at first
      have contrary := first.symm.trans declared
      cases contrary
  | error error stopped =>
      rw [result] at first
      obtain ⟨name, taken, rfl⟩ := first
      cases taken.symm.trans declared
      exact ⟨stopped, rfl⟩

theorem register_ne_duplicate (allows : linker.shadowing = .allow) (owner name : String)
    (after : Linker) :
    register module m linker ≠ .error (.link (.duplicateDefinition owner name)) after := by
  intro failed
  have free : linker.shadowing = .reject → linker.collision? module m = none := by
    intro rejects
    rw [allows] at rejects
    cases rejects
  rw [register_of_free free] at failed
  rcases linkFault_of_long failed with ⟨i, _, contrary | ⟨_, contrary⟩⟩ | ⟨_, _, rejects⟩
  · cases contrary
  · cases contrary
  · rw [allows] at rejects
    cases rejects

/-- While redefinitions are refused, registering a module that can be instantiated reports the
collision that the long way would meet, but before anything has run or has been bound, or it ends
as the long way does. While redefinitions are allowed, it never reports a collision. -/
theorem register_agrees_with_define_after (module : String) (linker : Linker) :
    (linker.shadowing = .reject → ∀ (m : Module) (inst : Instance) (made : Linker),
      m.ValidExports → instantiate m linker = .ok inst made →
      (∀ owner name,
        (∃ after, register module m linker =
          .error (.link (.duplicateDefinition owner name)) after) ↔
        ∃ after, defineInstance module inst made =
          .error (.duplicateDefinition owner name) after) ∧
      (∀ result after, register module m linker = .ok result after ↔
        result = inst ∧ defineInstance module inst made = .ok () after) ∧
      ∀ error after, register module m linker = .error error after →
        (∃ e ∈ m.exports, error = .link (.duplicateDefinition module e.name)) ∧
        after.store = linker.store ∧ after.registry = linker.registry ∧
        after.shadowing = linker.shadowing) ∧
    (linker.shadowing = .allow → ∀ m owner name after,
      register module m linker ≠ .error (.link (.duplicateDefinition owner name)) after) := by
  refine ⟨?_, fun allows m owner name after => register_ne_duplicate allows owner name after⟩
  intro rejects m inst made valid success
  cases found : linker.collision? module m with
  | some e =>
      obtain ⟨trace, refused⟩ := register_of_collision rejects found
      obtain ⟨stopped, collided⟩ := defineInstance_of_collision valid rejects success found
      refine ⟨?_, by simp [refused, collided], ?_⟩
      · intro owner name
        simp [refused, collided]
      · intro error after failed
        rw [refused] at failed
        cases failed
        exact ⟨⟨e, (taken_of_collision found).1, rfl⟩, rfl, rfl, rfl⟩
  | none =>
      obtain ⟨trace, bound⟩ := defineInstance_of_made valid (fun _ => found) success
      have registered := (register_of_free fun _ => found).trans
        (instantiateAndDefine_eq_ok_iff.mpr ⟨made, success, bound⟩)
      refine ⟨by simp [registered, bound], ?_, by simp [registered]⟩
      intro result after
      simp [registered, bound, eq_comm]

/-- A module whose start function calls the host exports a new name and one that is taken. The
long way has made the call and has bound the new name when it meets the other one. Where
redefinitions are allowed, there is nothing to meet. -/
theorem register_collides_before_start :
    let tick : Extern := ⟨0, .func ⟨0, ⟨[], []⟩⟩⟩
    let m : Module := {
      imports := [⟨"lib", "tick", .func ⟨[], []⟩⟩]
      funcs := [⟨⟨[], []⟩, [], [.call 0]⟩]
      exports := [⟨"run", .function, 1⟩, ⟨"tick", .function, 0⟩]
      start := some 1 }
    let linker : Linker := ⟨{ id := 0, funcs := [⟨⟨[], []⟩, .host "tick" (.values [])⟩] },
      Namespace.empty.put "lib" "tick" tick, .reject, [], .interpreter⟩
    let long := stateAfter (instantiateAndDefine "lib" m) linker
    m.ValidExports ∧ (∃ inst made, instantiate m linker = .ok inst made) ∧
      long.store.calls = [⟨"tick", []⟩] ∧ long.registry.contains "lib" "run" = true ∧
      (∃ after, register "lib" m linker = .error (.link (.duplicateDefinition "lib" "tick")) after ∧
        after.store.calls = [] ∧ after.registry = linker.registry) ∧
      ∀ after, register "lib" m { linker with shadowing := .allow } ≠
        .error (.link (.duplicateDefinition "lib" "tick")) after := by
  intro tick m linker long
  have valid : m.ValidExports := ⟨by decide, by decide⟩
  obtain ⟨inst, made, success⟩ : ∃ inst made, instantiate m linker = .ok inst made := ⟨_, _, rfl⟩
  have agrees := (register_agrees_with_define_after "lib" linker).1 rfl m inst made valid success
  have allowed := (register_agrees_with_define_after "lib" { linker with shadowing := .allow }).2
  obtain ⟨stopped, collided⟩ : ∃ stopped, defineInstance "lib" inst made =
      .error (.duplicateDefinition "lib" "tick") stopped := by
    cases success
    exact ⟨_, rfl⟩
  obtain ⟨after, refused⟩ := (agrees.1 "lib" "tick").mpr ⟨stopped, collided⟩
  obtain ⟨_, store, registry, _⟩ := agrees.2.2 _ after refused
  refine ⟨valid, ⟨inst, made, success⟩, rfl, by decide, ⟨after, refused, ?_, registry⟩, ?_⟩
  · rw [store]
  · exact fun after => allowed rfl m "lib" "tick" after

end Linkage.Linker
