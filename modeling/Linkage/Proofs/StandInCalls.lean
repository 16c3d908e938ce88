import Linkage.Proofs.StandIns

/-!
What stand-ins change and what calling one gives. Defining them adds functions to the store and binds
keys of missing functions to them, whether it comes to its end or not, and leaves all else alone. A
stand-in traps whenever it is called, from the host or from code, with the message about the key that
it was made for.
-/

namespace Linkage

section
variable {store : Store} {ref : FuncRef} {type : FuncType} {message : String}

theorem Exec.invoke_standIn (found : store.funcs[ref.address]? = some ⟨type, .standIn message⟩)
    (depth : Nat) (args : List Value) :
    invoke (depth + 1) ref args store = .error (.host message) store := by
  rw [invoke, get_bind, found]
  rfl

theorem Access.call_standIn (found : store.funcs[ref.address]? = some ⟨type, .standIn message⟩)
    {args : List Value} (typed : args.map Value.type = ref.type.params) :
    call ref args store = .error (.trap (.host message)) store := by
  obtain ⟨depth, limit⟩ : ∃ depth, Exec.callDepth = depth + 1 := ⟨_, rfl⟩
  have trapped : Exec.callFunc ref args store = .error (.host message) store := by
    rw [Exec.callFunc, limit]
    exact Exec.invoke_standIn found depth args
  rw [call, if_neg (not_not.mpr typed), running]
  exact adaptExcept_eq_error_iff.mpr ⟨_, trapped, rfl⟩

end

namespace Linker

def AddsFuncs (before after : Linker) : Prop :=
  ∃ funcs, after.store = { before.store with funcs := before.store.funcs ++ funcs }

instance : IsPreorder Linker AddsFuncs where
  refl linker := ⟨[], by simp⟩
  trans first second third := by
    rintro ⟨funcs, added⟩ ⟨more, addedLater⟩
    exact ⟨funcs ++ more, by simp [addedLater, added]⟩

theorem define_addsFuncs (module name : String) (value : Extern) :
    Moves AddsFuncs (define module name value) := by
  intro linker
  have outcome := defined module name value linker
  unfold stateAfter
  generalize define module name value linker = result at outcome
  have same : ∀ after : Linker, after.store = linker.store → AddsFuncs linker after :=
    fun after kept => ⟨[], by simp [kept]⟩
  cases outcome with
  | foreign _ => exact same _ rfl
  | unsupported _ _ => exact same _ rfl
  | duplicate _ _ _ => exact same _ rfl
  | bound _ _ _ => exact same _ rfl

theorem defineStandIn_addsFuncs (i : Import) : Moves AddsFuncs (defineStandIn i) := by
  intro linker
  cases function : i.isFunction with
  | false =>
      rw [defineStandIn_of_other function]
      exact refl_of AddsFuncs linker
  | true =>
      obtain ⟨type, declared⟩ := Import.isFunction_iff.mp function
      let func : FuncInst := ⟨type, .standIn (standInMessage i.module i.name)⟩
      let added : Linker := { linker with store := (linker.store.addFunc func).2 }
      have entered : AddsFuncs linker added := ⟨[func], rfl⟩
      have whole : stateAfter (defineStandIn i) linker = stateAfter
          (define i.module i.name (linker.store.handle (.func (linker.store.addFunc func).1)))
          added := by
        simp only [stateAfter, defineStandIn, declared]
        rfl
      rw [whole]
      exact trans_of AddsFuncs entered (define_addsFuncs _ _ _ added)

theorem defineStandIns_addsFuncs (imports : List Import) :
    Moves AddsFuncs (defineStandIns imports) := by
  induction imports with
  | nil => exact moves_pure ()
  | cons i rest ih => exact moves_bind (defineStandIn_addsFuncs i) fun _ => ih

/-- Wherever it ends, stand-ins have been made for the missing functions up to some point. -/
theorem defineUnknownImports_standIns (m : Module) (linker : Linker) :
    ∃ covered, covered ⊆ linker.missingFunctions m ∧
      StandIns covered linker (stateAfter (defineUnknownImports m) linker) := by
  have outcome := defineUnknownImports_stoodIn m linker
  unfold stateAfter
  generalize defineUnknownImports m linker = result at outcome
  cases outcome with
  | completed standIns => exact ⟨_, List.Subset.refl _, standIns⟩
  | stopped split standIns _ _ =>
      rw [split]
      exact ⟨_, List.subset_append_left _ _, standIns⟩

/-- Every call with arguments of its parameter types fails with the message and does nothing,
whatever has been done with the linker since. -/
def AlwaysTraps (linker : Linker) (ref : FuncRef) (message : String) : Prop :=
  ∀ (operations : List Operation) (args : List Value), args.map Value.type = ref.type.params →
    let store := (linker.run operations).store
    ∃ cause, Access.call ref args store = .error (.trap cause) store ∧ cause.message = message

theorem StandsFor.alwaysTraps {i : Import} {before : Store} {after : Linker} {value : Extern}
    (stands : StandsFor i before after.store value) :
    ∃ ref : FuncRef, value = after.store.handle (.func ref) ∧ i.type = .func ref.type ∧
      before.funcs.length ≤ ref.address ∧
      AlwaysTraps after ref (standInMessage i.module i.name) := by
  obtain ⟨ref, same, declared, new, found⟩ := stands
  refine ⟨ref, same, declared, new, ?_⟩
  intro operations args typed
  have still := (run_extends after operations).getElem?_funcs found
  exact ⟨_, Access.call_standIn still typed, rfl⟩

variable {linker after : Linker} {m : Module} {covered : List Import}

theorem StandIns.keeps_bound (standIns : StandIns covered linker after)
    (missing : covered ⊆ linker.missingFunctions m) {module name : String} {value : Extern}
    (bound : linker.get? module name = some value) : after.get? module name = some value := by
  have uncovered : (module, name) ∉ covered.map Import.key := by
    intro member
    obtain ⟨i, inCovered, key⟩ := List.mem_map.mp member
    have unbound := (mem_missingFunctions_iff.mp (missing inCovered)).1.2
    cases key
    cases bound.symm.trans unbound
  exact (standIns.others (module, name) uncovered).trans bound

theorem StandIns.stands_for_missing (standIns : StandIns covered linker after)
    (missing : covered ⊆ linker.missingFunctions m) {module name : String} {value : Extern}
    (unbound : linker.get? module name = none) (bound : after.get? module name = some value) :
    ∃ i ∈ linker.unresolvedImports m, i.key = (module, name) ∧
      StandsFor i linker.store after.store value := by
  by_cases member : (module, name) ∈ covered.map Import.key
  · obtain ⟨i, inCovered, key, found, now, stands⟩ := standIns.stands (module, name) member
    obtain ⟨unresolved, _⟩ := List.mem_filter.mp (missing inCovered)
    cases now.symm.trans bound
    exact ⟨i, unresolved, key, stands⟩
  · have kept := standIns.others (module, name) member
    cases bound.symm.trans (kept.trans unbound)

/-- Whether defining stand-ins succeeds or fails, every key that was bound keeps its value, and a
key that has got one is that of a function import that was not resolved. The value is a function
that was not in the store before, of the type that an import of this key declares, and calling it
fails with a message that tells the key. The store has got functions and nothing else. -/
theorem stand_ins_touch_missing_only (linker : Linker) (m : Module) :
    let after := stateAfter (defineUnknownImports m) linker
    (∀ module name value, linker.get? module name = some value →
      after.get? module name = some value) ∧
    (∀ module name value, linker.get? module name = none →
      after.get? module name = some value →
      ∃ i ∈ linker.unresolvedImports m, i.key = (module, name) ∧ ∃ ref : FuncRef,
        value = after.store.handle (.func ref) ∧ i.type = .func ref.type ∧
        linker.store.funcs.length ≤ ref.address ∧
        AlwaysTraps after ref
          ("unknown import: `" ++ module ++ "::" ++ name ++ "` has not been defined")) ∧
    AddsFuncs linker after ∧ after.shadowing = linker.shadowing := by
  intro after
  obtain ⟨covered, missing, standIns⟩ := defineUnknownImports_standIns m linker
  refine ⟨fun _ _ _ bound => standIns.keeps_bound missing bound, ?_,
    defineStandIns_addsFuncs (linker.unresolvedImports m) linker, standIns.shadowing⟩
  intro module name value unbound bound
  obtain ⟨i, unresolved, key, stands⟩ := standIns.stands_for_missing missing unbound bound
  obtain ⟨ref, same, declared, new, traps⟩ := stands.alwaysTraps
  refine ⟨i, unresolved, key, ref, same, declared, new, ?_⟩
  cases key
  exact traps

/-- A module imports one key twice, with two types, beside a key that is bound and a memory. Where
redefinitions are refused the second import of the key ends it, and its first one has got a stand-in
by then. Where they are allowed the stand-in for the second one is left. -/
theorem stand_ins_of_key_with_two_types :
    let func : Extern := ⟨0, .func ⟨0, ⟨[], []⟩⟩⟩
    let linker := (new { id := 0 }).run
      [.onStore (.newFunc ⟨⟨[], []⟩, .host "g" (.values [])⟩), .define "env" "g" func]
    let m : Module := { imports := [⟨"env", "f", .func ⟨[.i32], []⟩⟩, ⟨"env", "g", .func ⟨[], []⟩⟩,
      ⟨"env", "memory", .memory ⟨1, none, false⟩⟩, ⟨"env", "f", .func ⟨[.i64], []⟩⟩] }
    let left := stateAfter (defineUnknownImports m) linker
    let replaced := stateAfter (defineUnknownImports m) (linker.allowShadowing true)
    (∃ error, defineUnknownImports m linker = .error error left) ∧
      defineUnknownImports m (linker.allowShadowing true) = .ok () replaced ∧
      left.get? "env" "g" = some func ∧ replaced.get? "env" "g" = some func ∧
      left.get? "env" "memory" = none ∧ replaced.get? "env" "memory" = none ∧
      (∃ ref : FuncRef, left.get? "env" "f" = some (left.store.handle (.func ref)) ∧
        ref.type.params = [.i32] ∧
        AlwaysTraps left ref ("unknown import: `" ++ "env" ++ "::" ++ "f" ++ "` has not been defined")) ∧
      ∃ ref : FuncRef, replaced.get? "env" "f" = some (replaced.store.handle (.func ref)) ∧
        ref.type.params = [.i64] ∧
        AlwaysTraps replaced ref
          ("unknown import: `" ++ "env" ++ "::" ++ "f" ++ "` has not been defined") := by
  intro func linker m left replaced
  obtain ⟨kept, added, _⟩ := stand_ins_touch_missing_only linker m
  obtain ⟨keptToo, addedToo, _⟩ := stand_ins_touch_missing_only (linker.allowShadowing true) m
  refine ⟨⟨_, rfl⟩, rfl, kept "env" "g" func rfl, keptToo "env" "g" func rfl, rfl, rfl, ?_, ?_⟩
  · obtain ⟨_, _, _, ref, same, _, _, traps⟩ := added "env" "f" ⟨0, .func ⟨1, ⟨[.i32], []⟩⟩⟩ rfl rfl
    cases same
    exact ⟨_, rfl, rfl, traps⟩
  · obtain ⟨_, _, _, ref, same, _, _, traps⟩ :=
      addedToo "env" "f" ⟨0, .func ⟨2, ⟨[.i64], []⟩⟩⟩ rfl rfl
    cases same
    exact ⟨_, rfl, rfl, traps⟩

end Linker

end Linkage
