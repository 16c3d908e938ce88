import Linkage.Capability
import Linkage.Proofs.Registration

/-!
Batches of definitions: lists of named values, the exports of an instance, and the capabilities of
the host. The entries are defined one after the other, each over what the entries before it have
bound. A batch ends at the first entry that is refused. What it leaves bound are exactly the
entries before that one, whatever the refusal was.
-/

namespace Linkage.Linker

inductive Refusal (linker : Linker) (module name : String) (value : Extern) : LinkError → Prop where
  | foreign (own : linker.store.owns value = false) :
      Refusal linker module name value (.type (.foreignStore module name))
  | unsupported (own : linker.store.owns value = true)
      (kind : (linker.store.typeOf value.item).kind? = none) :
      Refusal linker module name value
        (.type (.unsupportedExtern module name (linker.store.typeOf value.item).text))
  | duplicate (bindable : linker.store.Bindable value) (rejects : linker.shadowing = .reject)
      (taken : linker.registry.contains module name = true) :
      Refusal linker module name value (.duplicateDefinition module name)

theorem Refusal.key {linker : Linker} {module name : String} {value : Extern} {error : LinkError}
    (refusal : linker.Refusal module name value error) : error.key = some (module, name) := by
  cases refusal <;> rfl

theorem Refusal.of_bindable {linker : Linker} {module name : String} {value : Extern}
    {error : LinkError} (refusal : linker.Refusal module name value error)
    (bindable : linker.store.Bindable value) :
    error = .duplicateDefinition module name ∧ linker.shadowing = .reject ∧
      linker.registry.contains module name = true := by
  cases refusal with
  | foreign own => simp [bindable.own] at own
  | unsupported _ kind =>
      obtain ⟨found, isKind⟩ := bindable.kind
      simp [isKind] at kind
  | duplicate _ rejects taken => exact ⟨rfl, rejects, taken⟩

theorem Refusal.of_trace {linker : Linker} {trace : List TraceEntry} {module name : String}
    {value : Extern} {error : LinkError}
    (refusal : ({ linker with trace := trace } : Linker).Refusal module name value error) :
    linker.Refusal module name value error := by
  cases refusal with
  | foreign own => exact .foreign own
  | unsupported own kind => exact .unsupported own kind
  | duplicate bindable rejects taken => exact .duplicate bindable rejects taken

theorem define_refused {linker after : Linker} {module name : String} {value : Extern}
    {error : LinkError} (failed : define module name value linker = .error error after) :
    linker.Refusal module name value error ∧ after = linker := by
  have outcome := defined module name value linker
  rw [failed] at outcome
  cases outcome with
  | foreign own => exact ⟨.foreign own, rfl⟩
  | unsupported own kind => exact ⟨.unsupported own kind, rfl⟩
  | duplicate bindable rejects taken => exact ⟨.duplicate bindable rejects taken, rfl⟩

/-- The linker with the entries bound under `module`, whatever their names were bound to. -/
def bindAll (linker : Linker) (module : String) (entries : List (String × Extern)) : Linker :=
  { linker with registry := linker.registry.putAll module entries }

/-- Every entry can be bound when its turn comes, which is after the entries before it. -/
def Admits (linker : Linker) (module : String) (entries : List (String × Extern)) : Prop :=
  ∀ earlier entry rest, entries = earlier ++ entry :: rest →
    linker.store.Bindable entry.2 ∧ (linker.bindAll module earlier).Open module entry.1

theorem Admits.bindable {linker : Linker} {module : String} {entries : List (String × Extern)}
    (admits : linker.Admits module entries) : ∀ e ∈ entries, linker.store.Bindable e.2 := by
  intro e member
  obtain ⟨earlier, rest, split⟩ := List.append_of_mem member
  exact (admits earlier e rest split).1

theorem admits_cons {linker : Linker} {module name : String} {value : Extern}
    {rest : List (String × Extern)} {trace : List TraceEntry}
    (bindable : linker.store.Bindable value) (isOpen : linker.Open module name)
    (later : Admits { linker with
      registry := linker.registry.put module name value
      trace := trace } module rest) :
    linker.Admits module ((name, value) :: rest) := by
  intro earlier entry others split
  cases earlier with
  | nil =>
      cases split
      exact ⟨bindable, isOpen⟩
  | cons first earlier =>
      cases split
      exact later earlier entry others rfl

inductive Batched (module : String) (entries : List (String × Extern)) (linker : Linker) :
    EStateM.Result LinkError Linker Unit → Prop where
  | completed (admits : linker.Admits module entries) (trace : List TraceEntry) :
      Batched module entries linker
        (.ok () { linker.bindAll module entries with trace := trace })
  | stopped {earlier rest : List (String × Extern)} {entry : String × Extern} {error : LinkError}
      (split : entries = earlier ++ entry :: rest) (admits : linker.Admits module earlier)
      (refusal : (linker.bindAll module earlier).Refusal module entry.1 entry.2 error)
      (trace : List TraceEntry) :
      Batched module entries linker
        (.error error { linker.bindAll module earlier with trace := trace })

theorem admits_nil (linker : Linker) (module : String) : linker.Admits module [] := by
  intro earlier entry rest split
  simp at split

theorem batched (module : String) (entries : List (String × Extern)) (linker : Linker) :
    Batched module entries linker (defineExports module entries linker) := by
  induction entries generalizing linker with
  | nil => exact .completed (linker.admits_nil module) linker.trace
  | cons first rest ih =>
      obtain ⟨name, value⟩ := first
      cases head : define module name value linker with
      | error error after =>
          have stopped : defineExports module ((name, value) :: rest) linker =
              .error error after := by
            simp only [defineExports, bind, EStateM.bind, head]
          obtain ⟨refusal, rfl⟩ := define_refused head
          have first : (after.bindAll module []).Refusal module (name, value).1 (name, value).2
              error := refusal
          rw [stopped]
          exact .stopped rfl (after.admits_nil module) first after.trace
      | ok _ next =>
          have continued : defineExports module ((name, value) :: rest) linker =
              defineExports module rest next := by
            simp only [defineExports, bind, EStateM.bind, head]
          have outcome := defined module name value linker
          rw [head] at outcome
          rw [continued]
          cases outcome with
          | bound bindable isOpen trace =>
              -- What the rest meets is the registry with the first entry in it.
              have others := ih { linker with
                registry := linker.registry.put module name value
                trace := trace }
              generalize defineExports module rest _ = result at others
              cases others with
              | completed admits trace =>
                  exact .completed (admits_cons bindable isOpen admits) trace
              | stopped split admits refusal trace =>
                  exact .stopped (congrArg ((name, value) :: ·) split)
                    (admits_cons bindable isOpen admits) (Refusal.of_trace refusal) trace

inductive Batch where
  | listed (module : String) (entries : List (String × Extern))
  | exported (module : String) (inst : Instance)
  | host (capability : Capability)
  | wasi (capability : Capability)

namespace Batch

def module : Batch → String
  | listed module _ | exported module _ => module
  | host capability | wasi capability => capability.module

def entries : Batch → List (String × Extern)
  | listed _ entries => entries
  | exported _ inst => inst.exports
  | host capability | wasi capability => capability.exports

def define : Batch → Linking LinkError Unit
  | listed module entries => defineExports module entries
  | exported module inst => defineInstance module inst
  | host capability => defineHost capability
  | wasi capability => defineWasi capability

end Batch

theorem Batched.of_trace {linker : Linker} {trace : List TraceEntry} {module : String}
    {entries : List (String × Extern)} {result : EStateM.Result LinkError Linker Unit}
    (batched : Batched module entries { linker with trace := trace } result) :
    Batched module entries linker result := by
  cases batched with
  | completed admits trace =>
      have here : linker.Admits module entries := admits
      exact .completed here trace
  | @stopped earlier _ _ _ split admits refusal trace =>
      have here : linker.Admits module earlier := admits
      exact .stopped split here (Refusal.of_trace refusal) trace

theorem Batch.batched (batch : Batch) (linker : Linker) :
    Batched batch.module batch.entries linker (batch.define linker) := by
  cases batch with
  | listed module entries => exact Linker.batched module entries linker
  | exported module inst => exact Linker.batched module inst.exports linker
  | host capability => exact Linker.batched capability.module capability.exports linker
  | wasi capability => exact (Linker.batched capability.module capability.exports _).of_trace

end Linkage.Linker
