import Linkage.Linker.Instantiate
import Linkage.Proofs.Definition
import Linkage.Proofs.Extension
import Linkage.Proofs.Resolution

/-!
Instantiating and registering modules. An instantiation fails in one of three stages: the imports
do not resolve, the engine refuses the values, or the code traps; only in the last one has the
store changed, and the bindings never have. Registering asks for collisions before that and binds
the exports after it, which then cannot fail any more.
-/

namespace Linkage.Linker

inductive Instantiates (m : Module) (linker : Linker) :
    EStateM.Result InstantiationError Linker Instance → Prop where
  | unresolved {error : LinkError} (unresolved : linker.resolve m = .error error)
      (trace : List TraceEntry) :
      Instantiates m linker (.error (.link error) { linker with trace := trace })
  | refused {values : List Extern} {error : EngineError}
      (resolved : linker.resolve m = .ok values)
      (checked : linker.store.checkValues m.imports values = .error error)
      (trace : List TraceEntry) :
      Instantiates m linker (.error (.ofEngine error) { linker with trace := trace })
  | trapped {values : List Extern} {cause : Trap} {store : Store}
      (resolved : linker.resolve m = .ok values)
      (failed : linker.engine.instantiate m values linker.store = .error (.start cause) store)
      (trace : List TraceEntry) :
      Instantiates m linker (.error (.trap cause) { linker with store := store, trace := trace })
  | made {values : List Extern} {inst : Instance} {store : Store}
      (resolved : linker.resolve m = .ok values)
      (made : linker.engine.instantiate m values linker.store = .ok inst store)
      (trace : List TraceEntry) :
      Instantiates m linker (.ok inst { linker with store := store, trace := trace })

theorem instantiates (m : Module) (linker : Linker) :
    Instantiates m linker (instantiate m linker) := by
  have seen : (linker.emit (instantiationSpan m)).resolve m = linker.resolve m :=
    resolveImports_congr (fun _ => rfl) fun _ _ => rfl
  unfold instantiate within TraceEntry.around instantiateResolved
  rw [seen]
  cases resolved : linker.resolve m with
  | error error => exact .unresolved resolved _
  | ok values =>
      simp only [store_note, store_emit, engine_emit]
      cases checked : linker.store.checkValues m.imports values with
      | error fault =>
          rw [linker.engine.refuses checked]
          exact .refused resolved checked _
      | ok =>
          cases result : linker.engine.instantiate m values linker.store with
          | ok inst store => exact .made resolved result _
          | error error store =>
              obtain ⟨cause, rfl⟩ := linker.engine.traps checked result
              exact .trapped resolved result _

structure SameBindings (before after : Linker) : Prop where
  registry : after.registry = before.registry
  shadowing : after.shadowing = before.shadowing

theorem instantiate_sameBindings (m : Module) : Moves SameBindings (instantiate m) := by
  intro linker
  have outcome := instantiates m linker
  unfold stateAfter
  generalize instantiate m linker = result at outcome
  cases outcome with
  | unresolved _ _ => exact ⟨rfl, rfl⟩
  | refused _ _ _ => exact ⟨rfl, rfl⟩
  | trapped _ _ _ => exact ⟨rfl, rfl⟩
  | made _ _ _ => exact ⟨rfl, rfl⟩

theorem length_of_resolved {linker : Linker} {m : Module} {values : List Extern}
    (resolved : linker.resolve m = .ok values) : m.imports.length = values.length :=
  (resolveImports_eq_ok_iff.mp resolved).length_eq

theorem bindable_of_made {m : Module} {linker after : Linker} {inst : Instance}
    (made : instantiate m linker = .ok inst after) :
    ∀ e ∈ inst.exports, after.store.Bindable e.2 := by
  have outcome := instantiates m linker
  rw [made] at outcome
  cases outcome with
  | @made values _ store _ produced _ =>
      have extension := linker.engine.grows m values linker.store
      rw [stateAfter_eq_of_ok produced] at extension
      -- What the instance exports may be bound over the store it found, so also over this one.
      intro e member
      obtain ⟨own, kind, found⟩ := linker.engine.owns produced e member
      have bindable : linker.store.Bindable e.2 :=
        ⟨decide_eq_true own, kind, (linker.store.kind?_typeOf _).trans found⟩
      exact bindable.of_id extension.id

theorem exports_of_made {m : Module} {linker after : Linker} {inst : Instance}
    (valid : m.ValidExports) (made : instantiate m linker = .ok inst after) :
    inst.exports.map Prod.fst = m.exports.map Export.name ∧
      ∀ e ∈ inst.exports, after.store.Bindable e.2 := by
  refine ⟨?_, bindable_of_made made⟩
  have outcome := instantiates m linker
  rw [made] at outcome
  cases outcome with
  | made resolved produced _ =>
      exact linker.engine.names valid (length_of_resolved resolved) produced

theorem declared_of_exported {m : Module} {inst : Instance}
    (names : inst.exports.map Prod.fst = m.exports.map Export.name) {entry : String × Extern}
    (member : entry ∈ inst.exports) : ∃ e ∈ m.exports, e.name = entry.1 := by
  have exported : entry.1 ∈ m.exports.map Export.name := names ▸ List.mem_map_of_mem member
  exact List.mem_map.mp exported

theorem exported_of_declared {m : Module} {inst : Instance}
    (names : inst.exports.map Prod.fst = m.exports.map Export.name) {e : Export}
    (member : e ∈ m.exports) : ∃ value, inst.export? e.name = some value := by
  have exported : e.name ∈ inst.exports.map Prod.fst := names ▸ List.mem_map_of_mem member
  obtain ⟨entry, inExports, same⟩ := List.mem_map.mp exported
  apply Option.isSome_iff_exists.mp
  exact List.lookup_isSome_iff.mpr ⟨entry, inExports, beq_iff_eq.mpr same.symm⟩

inductive Registers (module : String) (m : Module) (linker : Linker) :
    EStateM.Result InstantiationError Linker Instance → Prop where
  | collides {e : Export} (rejects : linker.shadowing = .reject)
      (first : linker.collision? module m = some e) (trace : List TraceEntry) :
      Registers module m linker
        (.error (.link (.duplicateDefinition module e.name)) { linker with trace := trace })
  | fails {error : InstantiationError} {after : Linker}
      (failed : instantiate m linker = .error error after) :
      Registers module m linker (.error error after)
  | binds {inst : Instance} {after : Linker} (made : instantiate m linker = .ok inst after)
      (trace : List TraceEntry) :
      Registers module m linker
        (.ok inst { after with
          registry := linker.registry.putAll module inst.exports
          trace := trace })

theorem taken_of_collision {linker : Linker} {module : String} {m : Module} {e : Export}
    (found : linker.collision? module m = some e) :
    e ∈ m.exports ∧ linker.registry.contains module e.name = true := by
  unfold collision? at found
  have taken := List.find?_some found
  exact ⟨List.mem_of_find?_eq_some found, taken⟩

theorem open_of_no_collision {linker : Linker} {module : String} {m : Module}
    (free : linker.shadowing = .reject → linker.collision? module m = none) :
    ∀ e ∈ m.exports, linker.Open module e.name := by
  intro e member rejects
  have absent := List.find?_eq_none.mp (free rejects) e member
  exact Bool.not_eq_true _ ▸ absent

/-- With no collision, the exports of the new instance are bound without a fault: nothing that
ran in between could reach the bindings. -/
theorem defineInstance_of_made {linker after : Linker} {module : String} {m : Module}
    {inst : Instance} (valid : m.ValidExports)
    (free : linker.shadowing = .reject → linker.collision? module m = none)
    (made : instantiate m linker = .ok inst after) :
    ∃ trace, defineInstance module inst after =
      .ok () { after with
        registry := linker.registry.putAll module inst.exports
        trace := trace } := by
  obtain ⟨names, bindable⟩ := exports_of_made valid made
  have kept := instantiate_sameBindings m linker
  rw [stateAfter_eq_of_ok made] at kept
  have distinct : (inst.exports.map Prod.fst).Nodup := names ▸ valid.distinct
  -- The keys were open before the instantiation, which kept the registry and the setting.
  have isOpen : ∀ e ∈ inst.exports, after.Open module e.1 := by
    intro e member rejects
    obtain ⟨declared, inExports, same⟩ := declared_of_exported names member
    rw [kept.registry, ← same]
    exact open_of_no_collision free declared inExports (kept.shadowing ▸ rejects)
  rw [← kept.registry]
  exact defineExports_of_bindable bindable distinct isOpen

theorem instantiateAndDefine_eq_ok_iff {module : String} {m : Module} {linker after : Linker}
    {inst : Instance} :
    instantiateAndDefine module m linker = .ok inst after ↔ ∃ made,
      instantiate m linker = .ok inst made ∧ defineInstance module inst made = .ok () after := by
  simp only [instantiateAndDefine, lifted, bind_eq_ok_iff, adaptExcept_eq_ok_iff]
  constructor
  · rintro ⟨found, made, success, ⟨⟩, last, defined, ⟨⟩⟩
    exact ⟨made, success, defined⟩
  · rintro ⟨made, success, defined⟩
    exact ⟨inst, made, success, (), after, defined, rfl⟩

theorem instantiateAndDefine_eq_error_iff {module : String} {m : Module} {linker after : Linker}
    {error : InstantiationError} :
    instantiateAndDefine module m linker = .error error after ↔
      instantiate m linker = .error error after ∨ ∃ inst made fault,
        instantiate m linker = .ok inst made ∧
          defineInstance module inst made = .error fault after ∧ error = .link fault := by
  simp only [instantiateAndDefine, lifted, bind_eq_error_iff, adaptExcept_eq_error_iff]
  constructor
  · rintro (failed | ⟨inst, made, success, ⟨fault, failed, rfl⟩ | ⟨_, _, _, ⟨⟩⟩⟩)
    · exact Or.inl failed
    · exact Or.inr ⟨inst, made, fault, success, failed, rfl⟩
  · rintro (failed | ⟨inst, made, fault, success, failed, rfl⟩)
    · exact Or.inl failed
    · exact Or.inr ⟨inst, made, success, Or.inl ⟨fault, failed, rfl⟩⟩

theorem register_of_collision {module : String} {m : Module} {linker : Linker} {e : Export}
    (rejects : linker.shadowing = .reject)
    (found : linker.collision? module m = some e) :
    ∃ trace, register module m linker =
      .error (.link (.duplicateDefinition module e.name)) { linker with trace := trace } := by
  simp only [register, if_pos rejects, found]
  exact ⟨_, rfl⟩

theorem register_of_free {module : String} {m : Module} {linker : Linker}
    (free : linker.shadowing = .reject → linker.collision? module m = none) :
    register module m linker = instantiateAndDefine module m linker := by
  by_cases rejects : linker.shadowing = .reject
  · simp only [register, if_pos rejects, free rejects]
  · simp only [register, if_neg rejects]

/-- The first collision is refused, and where there is none the exports are bound in the end. -/
theorem register_cases (module : String) (m : Module) (linker : Linker) :
    (∃ e trace, linker.shadowing = .reject ∧ linker.collision? module m = some e ∧
      register module m linker =
        .error (.link (.duplicateDefinition module e.name)) { linker with trace := trace }) ∨
    ((linker.shadowing = .reject → linker.collision? module m = none) ∧
      register module m linker = instantiateAndDefine module m linker) := by
  by_cases free : linker.shadowing = .reject → linker.collision? module m = none
  · exact Or.inr ⟨free, register_of_free free⟩
  · rw [Classical.not_imp] at free
    obtain ⟨e, found⟩ := Option.ne_none_iff_exists'.mp free.2
    obtain ⟨trace, refused⟩ := register_of_collision free.1 found
    exact Or.inl ⟨e, trace, free.1, found, refused⟩

theorem registers_of_free {module : String} {m : Module} {linker : Linker}
    (valid : m.ValidExports)
    (free : linker.shadowing = .reject → linker.collision? module m = none) :
    Registers module m linker (instantiateAndDefine module m linker) := by
  cases made : instantiate m linker with
  | error error after =>
      rw [instantiateAndDefine_eq_error_iff.mpr (Or.inl made)]
      exact .fails made
  | ok inst after =>
      obtain ⟨trace, bound⟩ := defineInstance_of_made valid free made
      rw [instantiateAndDefine_eq_ok_iff.mpr ⟨after, made, bound⟩]
      exact .binds made trace

theorem registers (module : String) {m : Module} (linker : Linker) (valid : m.ValidExports) :
    Registers module m linker (register module m linker) := by
  rcases register_cases module m linker with ⟨e, trace, rejects, found, refused⟩ | ⟨free, passed⟩
  · rw [refused]
    exact .collides rejects found trace
  · rw [passed]
    exact registers_of_free valid free

theorem register_error_sameBindings {module : String} {m : Module} {linker after : Linker}
    {error : InstantiationError} (valid : m.ValidExports)
    (failed : register module m linker = .error error after) : SameBindings linker after := by
  have outcome := registers module linker valid
  rw [failed] at outcome
  cases outcome with
  | collides _ _ _ => exact ⟨rfl, rfl⟩
  | fails failed =>
      have kept := instantiate_sameBindings m linker
      rwa [stateAfter_eq_of_error failed] at kept

/-- Why registering a module can fail: an export collides with a binding, an import is not bound
or is bound to a value of another type, the engine finds a memory or table outside the declared
limits or a value of another store, or the code traps. -/
inductive RegistrationFault (module : String) (m : Module) (linker : Linker) :
    InstantiationError → Prop where
  | collision {e : Export} (rejects : linker.shadowing = .reject) (member : e ∈ m.exports)
      (taken : linker.registry.contains module e.name = true) :
      RegistrationFault module m linker (.link (.duplicateDefinition module e.name))
  | misfit {i : Import} {error : LinkError} (member : i ∈ m.imports)
      (misfit : linker.Misfit i error) : RegistrationFault module m linker (.link error)
  | limits {i : Import} {value : Extern} (member : i ∈ m.imports) (fits : linker.Fits i value)
      (refused : linker.store.admits i.type value.item = false) :
      RegistrationFault module m linker
        (.link (.importTypeMismatch i.module i.name i.type (linker.store.typeOf value.item)))
  | foreign {i : Import} {value : Extern} (member : i ∈ m.imports) (fits : linker.Fits i value)
      (own : linker.store.owns value = false) :
      RegistrationFault module m linker (.engine "cannot mix imports from different stores")
  | trap (cause : Trap) : RegistrationFault module m linker (.trap cause)

theorem registrationFault_of_instantiate {module : String} {m : Module}
    {linker after : Linker} {error : InstantiationError}
    (failed : instantiate m linker = .error error after) :
    RegistrationFault module m linker error := by
  have outcome := instantiates m linker
  rw [failed] at outcome
  cases outcome with
  | unresolved unresolved _ =>
      obtain ⟨_, i, found, misfit, _⟩ := resolveImports_eq_error_iff.mp unresolved
      exact .misfit (List.mem_of_getElem? found) misfit
  | refused resolved checked _ =>
      have fitting := resolveImports_eq_ok_iff.mp resolved
      rcases Store.checkValues_error (length_of_resolved resolved) checked with
        ⟨equal, value, member, own⟩ | ⟨i, value, member, refused, equal⟩
      · subst equal
        obtain ⟨i, inImports, fits⟩ := forall₂_mem_right fitting member
        exact .foreign inImports fits own
      · subst equal
        exact .limits (List.of_mem_zip member).1 (List.forall₂_zip fitting member) refused
  | trapped _ _ _ => exact .trap _

/-- Registering a module binds all of its exports to what the new instance exports and touches no
other key, or it fails for one of the named reasons and no binding has changed. -/
theorem register_all_or_nothing (module : String) (m : Module) (linker : Linker)
    (valid : m.ValidExports) :
    match register module m linker with
    | .ok inst after =>
        inst.exports.map Prod.fst = m.exports.map Export.name ∧
        (∀ e ∈ m.exports, ∃ value,
          inst.export? e.name = some value ∧ after.get? module e.name = some value) ∧
        (∀ key : String × String, (∀ e ∈ m.exports, key ≠ (module, e.name)) →
          after.get? key.1 key.2 = linker.get? key.1 key.2) ∧
        after.shadowing = linker.shadowing
    | .error error after =>
        RegistrationFault module m linker error ∧
        after.registry = linker.registry ∧ after.shadowing = linker.shadowing := by
  have outcome := registers module linker valid
  generalize register module m linker = result at outcome
  cases outcome with
  | collides rejects first _ =>
      obtain ⟨member, taken⟩ := taken_of_collision first
      exact ⟨.collision rejects member taken, rfl, rfl⟩
  | fails failed =>
      have kept := instantiate_sameBindings m linker
      rw [stateAfter_eq_of_error failed] at kept
      exact ⟨registrationFault_of_instantiate failed, kept.registry, kept.shadowing⟩
  | @binds inst after made trace =>
      have kept := instantiate_sameBindings m linker
      rw [stateAfter_eq_of_ok made] at kept
      have names := (exports_of_made valid made).1
      have distinct : (inst.exports.map Prod.fst).Nodup := names ▸ valid.distinct
      refine ⟨names, ?_, ?_, kept.shadowing⟩
      · intro e member
        obtain ⟨value, found⟩ := exported_of_declared names member
        exact ⟨value, found, Namespace.get?_putAll_of_mem _ distinct (mem_of_lookup found)⟩
      · intro key others
        refine Namespace.get?_putAll_of_ne linker.registry ?_
        intro e member
        obtain ⟨declared, inExports, same⟩ := declared_of_exported names member
        exact same ▸ others declared inExports

/-- A module that passes an imported function on, over a linker that has it: the new key is bound
to the same function as the old one. -/
theorem register_passes_import_on :
    let tick : Extern := ⟨0, .func ⟨0, ⟨[], []⟩⟩⟩
    let m : Module := {
      imports := [⟨"env", "tick", .func ⟨[], []⟩⟩]
      memories := [⟨1, none, false⟩]
      exports := [⟨"again", .function, 0⟩, ⟨"memory", .memory, 0⟩] }
    let linker : Linker := ⟨{ id := 0, funcs := [⟨⟨[], []⟩, .host "tick" (.values [])⟩] },
      Namespace.empty.put "env" "tick" tick, .reject, [], .interpreter⟩
    m.ValidExports ∧ (stateAfter (register "lib" m) linker).get? "lib" "again" = some tick := by
  intro tick m linker
  have valid : m.ValidExports := ⟨by decide, by decide⟩
  have outcome := register_all_or_nothing "lib" m linker valid
  obtain ⟨inst, after, made⟩ : ∃ inst after, register "lib" m linker = .ok inst after :=
    ⟨_, _, rfl⟩
  rw [made] at outcome
  obtain ⟨value, exported, bound⟩ := outcome.2.1 ⟨"again", .function, 0⟩ List.mem_cons_self
  refine ⟨valid, ?_⟩
  rw [stateAfter_eq_of_ok made, bound]
  cases made
  exact exported.symm

/-- A failure while linking leaves the store as it was, the record of host calls included: nothing
has run. A failure of the module's own code comes after its imports have resolved. Neither one
changes a binding. -/
structure TwoPhase (m : Module) (before : Linker) (error : InstantiationError)
    (after : Linker) : Prop where
  link : error.isLink = true → after.store = before.store
  trap : error.isTrap = true → ∃ values, before.resolve m = .ok values
  bindings : SameBindings before after

theorem instantiate_twoPhase {m : Module} {linker after : Linker} {error : InstantiationError}
    (failed : instantiate m linker = .error error after) : TwoPhase m linker error after := by
  have bindings := instantiate_sameBindings m linker
  rw [stateAfter_eq_of_error failed] at bindings
  have outcome := instantiates m linker
  rw [failed] at outcome
  cases outcome with
  | unresolved _ _ => exact ⟨fun _ => rfl, nofun, bindings⟩
  | refused resolved _ _ => exact ⟨fun _ => rfl, fun _ => ⟨_, resolved⟩, bindings⟩
  | trapped resolved _ _ => exact ⟨nofun, fun _ => ⟨_, resolved⟩, bindings⟩

/-- A failure to instantiate, and one to register, belongs to one of two phases. The binding of
exports, which comes after the start function has run, adds no failure of its own. -/
theorem failure_in_two_phases (m : Module) (linker : Linker) :
    (∀ error after, instantiate m linker = .error error after →
      TwoPhase m linker error after) ∧
    (m.ValidExports → ∀ module error after, register module m linker = .error error after →
      TwoPhase m linker error after) := by
  refine ⟨fun error after => instantiate_twoPhase, ?_⟩
  intro valid module error after failed
  have outcome := registers module linker valid
  rw [failed] at outcome
  cases outcome with
  | collides _ _ _ => exact ⟨fun _ => rfl, nofun, rfl, rfl⟩
  | fails failed => exact instantiate_twoPhase failed

/-- A start function that traps after a call of the host, and an export that collides with a
binding: the first comes after resolution, the second leaves the store alone. -/
theorem failure_of_start_and_of_collision :
    let m : Module := {
      imports := [⟨"env", "tick", .func ⟨[], []⟩⟩]
      funcs := [⟨⟨[], []⟩, [], [.call 0, .unreachable]⟩]
      exports := [⟨"tick", .function, 1⟩]
      start := some 1 }
    let linker : Linker := ⟨{ id := 0, funcs := [⟨⟨[], []⟩, .host "tick" (.values [])⟩] },
      Namespace.empty.put "env" "tick" ⟨0, .func ⟨0, ⟨[], []⟩⟩⟩, .reject, [], .interpreter⟩
    m.ValidExports ∧ (∃ values, linker.resolve m = .ok values) ∧
      (stateAfter (register "env" m) linker).store = linker.store := by
  intro m linker
  have valid : m.ValidExports := ⟨by decide, by decide⟩
  have phases := failure_in_two_phases m linker
  obtain ⟨stopped, trapped⟩ : ∃ after, instantiate m linker = .error (.trap .unreachable) after :=
    ⟨_, rfl⟩
  obtain ⟨refused, collided⟩ : ∃ after, register "env" m linker =
      .error (.link (.duplicateDefinition "env" "tick")) after := ⟨_, rfl⟩
  rw [stateAfter_eq_of_error collided]
  exact ⟨valid, (phases.1 _ _ trapped).trap rfl, (phases.2 valid _ _ _ collided).link rfl⟩

end Linkage.Linker
