import Linkage.Proofs.Run

/-!
What a linker binds belongs to its own store and is of one of the four kinds, whatever was done
with it. That is what keeps its questions for types sound: an engine answers them for values of
the store only. The functions of this module ask for types through a parameter and see nothing
else of the store. Where no answer is to be had they have no outcome.
-/

namespace Linkage

/-- The type of a value as its own store tells it. Other stores cannot. -/
def Store.typeIn? (store : Store) (value : Extern) : Option ExternType :=
  if store.owns value then some (store.typeOf value.item) else none

theorem Store.typeIn?_of_own {store : Store} {value : Extern} (own : store.owns value = true) :
    store.typeIn? value = some (store.typeOf value.item) :=
  if_pos own

namespace Linker

section
variable (ask : Extern → Option ExternType)

/-- A mismatch is reported with the type that a second question finds. -/
def resolveImportAsking (registry : Namespace) (i : Import) : Option (Except LinkError Extern) :=
  match registry.get? i.module i.name with
  | none => some (.error (.unresolvedImport i.module i.name i.type))
  | some value => do
      let type ← ask value
      if i.type.accepts type then some (.ok value)
      else do
        let found ← ask value
        some (.error (.importTypeMismatch i.module i.name i.type found))

def resolveImportsAsking (registry : Namespace) :
    List Import → Option (Except LinkError (List Extern))
  | [] => some (.ok [])
  | i :: rest => do
      match ← resolveImportAsking ask registry i with
      | .error error => some (.error error)
      | .ok value =>
          let values ← resolveImportsAsking registry rest
          some (values.map (value :: ·))

def statusAsking (registry : Namespace) (i : Import) : Option ImportStatus :=
  match registry.get? i.module i.name with
  | none => some .unresolved
  | some value => do
      let type ← ask value
      some (if i.type.accepts type then .bound else .mismatched)

/-- The first check is for the store, and it asks nothing. -/
def classifyAsking (store : StoreId) (module name : String) (value : Extern) :
    Option (Except TypeError ExternKind) :=
  if value.store = store then do
    let type ← ask value
    match type.kind? with
    | some kind => some (.ok kind)
    | none => some (.error (.unsupportedExtern module name type.text))
  else some (.error (.foreignStore module name))

def defineAsking (module name : String) (value : Extern) (linker : Linker) :
    Option (EStateM.Result LinkError Linker Unit) := do
  let classified ← classifyAsking ask linker.store.id module name value
  some (bindClassified module name value classified linker)

end

section
variable {ask : Extern → Option ExternType} {linker : Linker}

def Answers (ask : Extern → Option ExternType) (linker : Linker) : Prop :=
  ∀ module name value, linker.get? module name = some value →
    ask value = some (linker.store.typeOf value.item)

theorem resolveImportAsking_eq (answers : Answers ask linker) (i : Import) :
    resolveImportAsking ask linker.registry i = some (linker.resolveImport i) := by
  unfold resolveImportAsking resolveImport Linker.get?
  cases found : linker.registry.get? i.module i.name with
  | none => rfl
  | some value =>
      have answer := answers i.module i.name value found
      simp only [answer, Option.bind_eq_bind, Option.bind_some]
      by_cases accepts : i.type.accepts (linker.store.typeOf value.item) = true
      · have compatible : linker.compatible i.type value = true := accepts
        rw [if_pos accepts, if_pos compatible]
      · have incompatible : ¬ linker.compatible i.type value = true := accepts
        rw [if_neg accepts, if_neg incompatible]

theorem resolveImportsAsking_eq (answers : Answers ask linker) (imports : List Import) :
    resolveImportsAsking ask linker.registry imports = some (linker.resolveImports imports) := by
  induction imports with
  | nil => rfl
  | cons i rest ih =>
      simp only [resolveImportsAsking, resolveImports, resolveImportAsking_eq answers i, ih,
        Option.bind_eq_bind, Option.bind_some]
      cases linker.resolveImport i with
      | error _ => rfl
      | ok value =>
          cases linker.resolveImports rest with
          | error _ => rfl
          | ok _ => rfl

theorem statusAsking_eq (answers : Answers ask linker) (i : Import) :
    statusAsking ask linker.registry i = some (linker.status i) := by
  unfold statusAsking status Linker.get?
  cases found : linker.registry.get? i.module i.name with
  | none => rfl
  | some value =>
      have answer := answers i.module i.name value found
      simp only [answer, Option.bind_eq_bind, Option.bind_some]
      rfl

theorem classifyAsking_eq (linker : Linker) (module name : String) (value : Extern) :
    classifyAsking linker.store.typeIn? linker.store.id module name value =
      some (linker.classify module name value) := by
  unfold classifyAsking classify
  by_cases own : linker.store.owns value = true
  · have same : value.store = linker.store.id := of_decide_eq_true own
    rw [if_pos same, if_pos own, Store.typeIn?_of_own own]
    simp only [Option.bind_eq_bind, Option.bind_some, Store.bindingKind]
    cases (linker.store.typeOf value.item).kind? with
    | none => rfl
    | some _ => rfl
  · have foreign : ¬ value.store = linker.store.id := fun same => own (decide_eq_true same)
    rw [if_neg foreign, if_neg own]

theorem defineAsking_eq (module name : String) (value : Extern) (linker : Linker) :
    defineAsking linker.store.typeIn? module name value linker =
      some (define module name value linker) := by
  unfold defineAsking
  rw [classifyAsking_eq]
  rfl

end

structure Sound (store : StoreId) (linker : Linker) : Prop where
  id : linker.store.id = store
  bindable : ∀ binding ∈ linker.registry.bindings, linker.store.Bindable binding.2.2

theorem sound_new (store : Store) (engine : Engine) : Sound store.id (new store engine) where
  id := rfl
  bindable := by
    intro binding member
    cases member

theorem Step.sound {store : StoreId} {before after : Linker} (step : Step before after)
    (sound : Sound store before) : Sound store after := by
  cases step with
  | bind bindable _ =>
      refine ⟨sound.id, ?_⟩
      intro binding member
      rcases Namespace.mem_bindings_put member with new | old
      · rw [new]
        exact bindable
      · exact sound.bindable binding old
  | extend extension =>
      -- A larger store is still the same store, and the kind of a value never changes.
      refine ⟨extension.id.trans sound.id, ?_⟩
      intro binding member
      exact (sound.bindable binding member).of_id extension.id
  | trace _ => exact ⟨sound.id, sound.bindable⟩

theorem run_sound (store : Store) (engine : Engine) (operations : List Operation) :
    Sound store.id ((new store engine).run operations) :=
  run_induction (fun step sound => step.sound sound)
    (fun _ _ sound => ⟨sound.id, sound.bindable⟩) (sound_new store engine) operations

theorem Sound.bindable_of_get? {store : StoreId} {linker : Linker} (sound : Sound store linker)
    {module name : String} {value : Extern} (found : linker.get? module name = some value) :
    linker.store.Bindable value :=
  sound.bindable (module, name, value) (Namespace.mem_bindings_of_get? found)

theorem Sound.answers {store : StoreId} {linker : Linker} (sound : Sound store linker) :
    Answers linker.store.typeIn? linker := by
  intro module name value found
  exact Store.typeIn?_of_own (sound.bindable_of_get? found).own

/-- After every run the bound values belong to the store that the linker was made with and are of
one of the four kinds. So a store that tells types of its own values only answers every question
of resolving a module and of reading the status of an import, and every question of a definition,
whatever value is to be defined. -/
theorem run_own_bindings_and_questions (store : Store) (engine : Engine)
    (operations : List Operation) :
    let linker := (new store engine).run operations
    linker.store.id = store.id ∧
    (∀ binding ∈ linker.registry.bindings, linker.store.Bindable binding.2.2) ∧
    (∀ module name value, linker.get? module name = some value → linker.store.Bindable value) ∧
    (∀ m : Module, resolveImportsAsking linker.store.typeIn? linker.registry m.imports =
      some (linker.resolve m)) ∧
    (∀ i : Import, statusAsking linker.store.typeIn? linker.registry i = some (linker.status i)) ∧
    (∀ module name value, defineAsking linker.store.typeIn? module name value linker =
      some (define module name value linker)) := by
  intro linker
  -- Bound values get their answers by the invariant, a definition asks after its own check.
  have sound : Sound store.id linker := run_sound store engine operations
  refine ⟨sound.id, sound.bindable, ?_, ?_, ?_, ?_⟩
  · intro module name value found
    exact sound.bindable_of_get? found
  · intro m
    exact resolveImportsAsking_eq sound.answers m.imports
  · intro i
    exact statusAsking_eq sound.answers i
  · intro module name value
    exact defineAsking_eq module name value linker

theorem run_binds_function_only :
    let func : Extern := ⟨0, .func ⟨0, ⟨[], [.i32]⟩⟩⟩
    let linker := (new { id := 0 }).run
      [.onStore (.newFunc ⟨⟨[], [.i32]⟩, .host "host::run" .echo⟩),
        .define "host" "run" { func with store := 1 }, .define "host" "tag" ⟨0, .tag ⟨0, ⟨[]⟩⟩⟩,
        .define "host" "run" func]
    linker.registry.bindings = [("host", "run", func)] ∧ linker.store.Bindable func := by
  intro func linker
  have bound : linker.registry.bindings = [("host", "run", func)] := by rfl
  refine ⟨bound, ?_⟩
  obtain ⟨_, bindable, _⟩ := run_own_bindings_and_questions { id := 0 } .interpreter
    [.onStore (.newFunc ⟨⟨[], [.i32]⟩, .host "host::run" .echo⟩),
      .define "host" "run" { func with store := 1 }, .define "host" "tag" ⟨0, .tag ⟨0, ⟨[]⟩⟩⟩,
      .define "host" "run" func]
  exact bindable ("host", "run", func) (bound ▸ List.mem_singleton_self _)

end Linker

end Linkage
