import Linkage.Proofs.Extension
import Linkage.Proofs.Instance

/-!
The engine as a linker knows it. It makes instances of modules over a store, and a linker relies on
the laws stated here and on nothing else about how it does so. The interpreter keeps these laws.
-/

namespace Linkage

structure Engine where
  instantiate : Module → List Extern → EStateM EngineError Store Instance
  /-- Values that fail the check are refused, and nothing has been done by then. -/
  refuses : ∀ {m : Module} {values : List Extern} {store : Store} {error : EngineError},
    store.checkValues m.imports values = .error error →
    instantiate m values store = .error error store
  /-- With values that pass it, only a trap stops an instantiation. -/
  traps : ∀ {m : Module} {values : List Extern} {store after : Store} {error : EngineError},
    store.checkValues m.imports values = .ok () →
    instantiate m values store = .error error after → ∃ cause, error = .start cause
  /-- An instance exports values of the store it was made over, of kinds that can be bound. -/
  owns : ∀ {m : Module} {values : List Extern} {store after : Store} {inst : Instance},
    instantiate m values store = .ok inst after →
    ∀ e ∈ inst.exports, e.2.store = store.id ∧ ∃ kind, e.2.item.kind? = some kind
  /-- It exports them under the names that its module declares, in their order. -/
  names : ∀ {m : Module} {values : List Extern} {store after : Store} {inst : Instance},
    m.ValidExports → m.imports.length = values.length →
    instantiate m values store = .ok inst after →
    inst.exports.map Prod.fst = m.exports.map Export.name
  /-- The store only grows, also if the instantiation fails. -/
  grows : ∀ (m : Module) (values : List Extern), Moves Store.Extends (instantiate m values)

namespace Engine

variable {m : Module} {values : List Extern} {store after : Store} {inst : Instance}

theorem interpreter_traps {error : EngineError}
    (checked : store.checkValues m.imports values = .ok ())
    (failed : m.instantiate values store = .error error after) :
    ∃ cause, error = .start cause := by
  have outcome := m.instantiated values store
  rw [failed] at outcome
  cases outcome with
  | refused refused => cases checked.symm.trans refused
  | trapped _ _ => exact ⟨_, rfl⟩

theorem interpreter_owns (made : m.instantiate values store = .ok inst after) :
    ∀ e ∈ inst.exports, e.2.store = store.id ∧ ∃ kind, e.2.item.kind? = some kind := by
  have outcome := m.instantiated values store
  rw [made] at outcome
  cases outcome with
  | made _ _ => exact fun e member => Module.mem_exportsOf member

theorem interpreter_names (valid : m.ValidExports) (lengths : m.imports.length = values.length)
    (made : m.instantiate values store = .ok inst after) :
    inst.exports.map Prod.fst = m.exports.map Export.name := by
  have outcome := m.instantiated values store
  rw [made] at outcome
  cases outcome with
  | made checked _ =>
      exact Module.map_fst_exportsOf valid (Store.aligned_of_checkValues lengths checked) _

def interpreter : Engine where
  instantiate := Module.instantiate
  refuses checked := by simp only [Module.instantiate, checked]
  traps := interpreter_traps
  owns := interpreter_owns
  names := interpreter_names
  grows := Module.instantiate_extends

end Engine

end Linkage
