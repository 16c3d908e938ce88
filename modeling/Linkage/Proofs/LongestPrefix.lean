import Linkage.Proofs.Batches
import Linkage.Proofs.Run

/-!
A list of values registered under one module name. Of such a list the longest prefix without a
fault is bound. Whether an entry is at fault shows without running anything: it depends on its
value, on the setting of the linker, on what was bound at first and on the names of the entries
before it.
-/

namespace Linkage.Linker

def FailsAfter (linker : Linker) (module : String) (earlier : List (String × Extern))
    (entry : String × Extern) (error : LinkError) : Prop :=
  ∃ after, define module entry.1 entry.2 (linker.bindAll module earlier) = .error error after

/-- What is wrong with an entry, in the order in which it is looked for. -/
inductive EntryFault (linker : Linker) (module : String) (earlier : List (String × Extern))
    (entry : String × Extern) : LinkError → Prop where
  | foreign (other : entry.2.store ≠ linker.store.id) :
      EntryFault linker module earlier entry (.type (.foreignStore module entry.1))
  | tag {ref : TagRef} (own : entry.2.store = linker.store.id) (isTag : entry.2.item = .tag ref) :
      EntryFault linker module earlier entry
        (.type (.unsupportedExtern module entry.1 (ExternType.tag ref.type).text))
  | duplicate (own : entry.2.store = linker.store.id) (noTag : ∀ ref, entry.2.item ≠ .tag ref)
      (rejects : linker.shadowing = .reject)
      (taken : (∃ value, linker.get? module entry.1 = some value) ∨
        entry.1 ∈ earlier.map Prod.fst) :
      EntryFault linker module earlier entry (.duplicateDefinition module entry.1)

section
variable {linker : Linker} {module : String} {earlier rest : List (String × Extern)}
  {entry : String × Extern} {error : LinkError}

theorem EntryFault.key (fault : linker.EntryFault module earlier entry error) :
    error.key = some (module, entry.1) := by
  cases fault <;> rfl

theorem entryFault_of_refusal
    (refusal : (linker.bindAll module earlier).Refusal module entry.1 entry.2 error) :
    linker.EntryFault module earlier entry error := by
  cases refusal with
  | foreign own => exact .foreign (of_decide_eq_false own)
  | unsupported own kind =>
      rw [Store.kind?_typeOf] at kind
      obtain ⟨ref, isTag⟩ := Item.kind?_eq_none_iff.mp kind
      rw [isTag]
      exact .tag (of_decide_eq_true own) isTag
  | duplicate bindable rejects taken =>
      obtain ⟨own, noTag⟩ := Store.bindable_iff.mp bindable
      exact .duplicate own noTag rejects (linker.registry.contains_putAll_iff.mp taken)

theorem EntryFault.not_bound (fault : linker.EntryFault module earlier entry error)
    (bindable : linker.store.Bindable entry.2) :
    ¬ (linker.bindAll module earlier).Open module entry.1 := by
  obtain ⟨own, noTag⟩ := Store.bindable_iff.mp bindable
  cases fault with
  | foreign other => exact absurd own other
  | tag _ isTag => exact absurd isTag (noTag _)
  | duplicate _ _ rejects taken =>
      intro isOpen
      have closed := linker.registry.contains_putAll_iff.mpr taken
      exact absurd closed (Bool.eq_false_iff.mp (isOpen rejects))

theorem EntryFault.unique {other : LinkError}
    (fault : linker.EntryFault module earlier entry error)
    (second : linker.EntryFault module earlier entry other) : error = other := by
  cases fault <;> cases second <;> simp_all

theorem failsAfter_iff :
    linker.FailsAfter module earlier entry error ↔
      linker.EntryFault module earlier entry error := by
  constructor
  · rintro ⟨after, failed⟩
    exact entryFault_of_refusal (define_refused failed).1
  · intro fault
    unfold FailsAfter
    cases outcome : define module entry.1 entry.2 (linker.bindAll module earlier) with
    | ok _ after =>
        have bound := defined module entry.1 entry.2 (linker.bindAll module earlier)
        rw [outcome] at bound
        cases bound with
        | bound bindable isOpen _ => exact absurd isOpen (fault.not_bound bindable)
    | error found after =>
        have same := entryFault_of_refusal (define_refused outcome).1
        exact ⟨after, by rw [fault.unique same]⟩

end

variable {linker : Linker} {module : String} {entries : List (String × Extern)}

def FaultFree (linker : Linker) (module : String) (entries : List (String × Extern)) : Prop :=
  ∀ earlier entry rest, entries = earlier ++ entry :: rest →
    ∀ error, ¬ linker.FailsAfter module earlier entry error

theorem Admits.faultFree (admits : linker.Admits module entries) :
    linker.FaultFree module entries := by
  intro earlier entry rest split error failed
  obtain ⟨bindable, isOpen⟩ := admits earlier entry rest split
  exact (failsAfter_iff.mp failed).not_bound bindable isOpen

/-- A list of entries is bound as far as its entries do not fail. All of them are bound and it
succeeds, or it ends with the error of the first one that fails and only the entries before that
one are bound, in their order. An entry fails if its value is of another store, or else is a tag,
or else if its key may not be bound again and was bound at first or by an entry before it. -/
theorem defineExports_binds_longest_prefix (linker : Linker) (module : String)
    (entries : List (String × Extern)) :
    ((∃ after, defineExports module entries linker = .ok () after) ↔
      linker.FaultFree module entries) ∧
    (∀ after, defineExports module entries linker = .ok () after →
      after.registry = linker.registry.putAll module entries ∧
      after.shadowing = linker.shadowing ∧ after.store = linker.store) ∧
    (∀ error after, defineExports module entries linker = .error error after →
      ∃ earlier entry rest, entries = earlier ++ entry :: rest ∧
        linker.FaultFree module earlier ∧ linker.FailsAfter module earlier entry error ∧
        after.registry = linker.registry.putAll module earlier ∧
        after.shadowing = linker.shadowing ∧ after.store = linker.store) ∧
    ∀ earlier entry error, (linker.FailsAfter module earlier entry error ↔
        linker.EntryFault module earlier entry error) ∧
      (linker.FailsAfter module earlier entry error → error.key = some (module, entry.1)) := by
  have outcome := batched module entries linker
  refine ⟨⟨?_, ?_⟩, ?_, ?_, ?_⟩
  · rintro ⟨after, success⟩
    rw [success] at outcome
    cases outcome with
    | completed admits _ => exact admits.faultFree
  · intro faultFree
    generalize defineExports module entries linker = result at outcome ⊢
    cases outcome with
    | completed _ trace => exact ⟨_, rfl⟩
    | stopped split _ refusal _ =>
        have fault := failsAfter_iff.mpr (entryFault_of_refusal refusal)
        exact absurd fault (faultFree _ _ _ split _)
  · intro after success
    rw [success] at outcome
    cases outcome with
    | completed _ _ => exact ⟨rfl, rfl, rfl⟩
  · intro error after failed
    rw [failed] at outcome
    cases outcome with
    | @stopped earlier rest entry _ split admits refusal _ =>
        have fault := failsAfter_iff.mpr (entryFault_of_refusal refusal)
        exact ⟨earlier, entry, rest, split, admits.faultFree, fault, rfl, rfl, rfl⟩
  · intro earlier entry error
    exact ⟨failsAfter_iff, fun failed => (failsAfter_iff.mp failed).key⟩

/-- A list with a name that comes twice, a tag and a value of another store. While redefinitions
are refused it ends at the second use of the name. While they are allowed it goes on to the tag,
and the value of the other store stays behind. -/
theorem longest_prefix_of_repeated_name :
    let func : Extern := ⟨0, .func ⟨0, ⟨[], []⟩⟩⟩
    let second : Extern := ⟨0, .func ⟨1, ⟨[], []⟩⟩⟩
    let tag : Extern := ⟨0, .tag ⟨0, ⟨[]⟩⟩⟩
    let foreign : Extern := ⟨1, .func ⟨0, ⟨[], []⟩⟩⟩
    let entries := [("a", func), ("b", func), ("a", second), ("b", tag), ("c", foreign)]
    let rejecting := (new { id := 0 }).run
      [.onStore (.newFunc ⟨⟨[], []⟩, .host "f" (.values [])⟩),
        .onStore (.newFunc ⟨⟨[], []⟩, .host "g" (.values [])⟩), .onStore (.newTag ⟨[]⟩)]
    let allowing := rejecting.allowShadowing true
    (∃ after, defineExports "m" (entries.take 2) rejecting = .ok () after ∧
      after.registry = rejecting.registry.putAll "m" (entries.take 2)) ∧
    (∃ after earlier entry rest,
      defineExports "m" entries rejecting = .error (.duplicateDefinition "m" "a") after ∧
      after.get? "m" "a" = some func ∧ entries = earlier ++ entry :: rest ∧
      after.registry = rejecting.registry.putAll "m" earlier) ∧
    (∃ after, defineExports "m" entries allowing =
        .error (.type (.unsupportedExtern "m" "b" (ExternType.tag ⟨[]⟩).text)) after ∧
      after.get? "m" "a" = some second ∧ after.get? "m" "b" = some func) ∧
    rejecting.FailsAfter "m" (entries.take 2) ("a", foreign) (.type (.foreignStore "m" "a")) := by
  intro func second tag foreign entries rejecting allowing
  obtain ⟨_, _, stopped, faults⟩ := defineExports_binds_longest_prefix rejecting "m" entries
  obtain ⟨_, left, _⟩ := defineExports_binds_longest_prefix rejecting "m" (entries.take 2)
  obtain ⟨after, success⟩ : ∃ after,
      defineExports "m" (entries.take 2) rejecting = .ok () after := ⟨_, rfl⟩
  obtain ⟨last, failed, kept⟩ : ∃ after, defineExports "m" entries rejecting =
      .error (.duplicateDefinition "m" "a") after ∧ after.get? "m" "a" = some func :=
    ⟨_, rfl, rfl⟩
  obtain ⟨earlier, entry, rest, split, _, _, registry, _⟩ := stopped _ last failed
  have other : foreign.store ≠ rejecting.store.id := by decide
  refine ⟨⟨after, success, (left after success).1⟩,
    ⟨last, earlier, entry, rest, failed, kept, split, registry⟩, ⟨_, rfl, rfl, rfl⟩, ?_⟩
  exact (faults _ ("a", foreign) _).1.mpr (.foreign other)

end Linkage.Linker
