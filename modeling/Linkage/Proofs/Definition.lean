import Linkage.Proofs.Instance
import Linkage.Proofs.Registry
import Linkage.Linker.Basic

/-!
What defining a value can do. A value is bound if it belongs to the linker's store, is of one of
the four kinds and does not collide with a binding that may not be replaced. A refused definition
leaves the linker as it was. A list of definitions without such faults binds all of its names.
-/

namespace Linkage

structure Store.Bindable (store : Store) (value : Extern) : Prop where
  own : store.owns value = true
  kind : ∃ kind, (store.typeOf value.item).kind? = some kind

theorem Store.bindable_iff {store : Store} {value : Extern} :
    store.Bindable value ↔ value.store = store.id ∧ ∀ ref, value.item ≠ .tag ref := by
  constructor
  · intro bindable
    obtain ⟨kind, found⟩ := bindable.kind
    rw [Store.kind?_typeOf] at found
    refine ⟨of_decide_eq_true bindable.own, ?_⟩
    intro ref isTag
    rw [isTag] at found
    cases found
  · rintro ⟨own, noTag⟩
    refine ⟨decide_eq_true own, Option.ne_none_iff_exists'.mp ?_⟩
    rw [Store.kind?_typeOf]
    intro none
    obtain ⟨ref, isTag⟩ := Item.kind?_eq_none_iff.mp none
    exact noTag ref isTag

theorem Store.bindable_func (store : Store) (ref : FuncRef) :
    store.Bindable (store.handle (.func ref)) :=
  Store.bindable_iff.mpr ⟨rfl, nofun⟩

theorem Store.Bindable.of_id {before after : Store} {value : Extern}
    (bindable : before.Bindable value) (id : after.id = before.id) : after.Bindable value := by
  obtain ⟨own, noTag⟩ := Store.bindable_iff.mp bindable
  exact Store.bindable_iff.mpr ⟨own.trans id.symm, noTag⟩

namespace Linker

/-- A key may be given a value: it is free, or bindings may be replaced. -/
def Open (linker : Linker) (module name : String) : Prop :=
  linker.shadowing = .reject → linker.registry.contains module name = false

inductive Defined (module name : String) (value : Extern) (linker : Linker) :
    EStateM.Result LinkError Linker Unit → Prop where
  | foreign (own : linker.store.owns value = false) :
      Defined module name value linker (.error (.type (.foreignStore module name)) linker)
  | unsupported (own : linker.store.owns value = true)
      (kind : (linker.store.typeOf value.item).kind? = none) :
      Defined module name value linker
        (.error (.type (.unsupportedExtern module name (linker.store.typeOf value.item).text))
          linker)
  | duplicate (bindable : linker.store.Bindable value) (shadowing : linker.shadowing = .reject)
      (taken : linker.registry.contains module name = true) :
      Defined module name value linker (.error (.duplicateDefinition module name) linker)
  | bound (bindable : linker.store.Bindable value) (isOpen : linker.Open module name)
      (trace : List TraceEntry) :
      Defined module name value linker
        (.ok () { linker with
          registry := linker.registry.put module name value
          trace := trace })

theorem defined (module name : String) (value : Extern) (linker : Linker) :
    Defined module name value linker (define module name value linker) := by
  cases own : linker.store.owns value with
  | false =>
      have classified : linker.classify module name value =
          .error (.foreignStore module name) := by simp [classify, own]
      simp only [define, bindClassified, classified]
      exact .foreign own
  | true =>
      cases kind : (linker.store.typeOf value.item).kind? with
      | none =>
          have classified : linker.classify module name value =
              .error (.unsupportedExtern module name (linker.store.typeOf value.item).text) := by
            simp [classify, own, Store.bindingKind, kind]
          simp only [define, bindClassified, classified]
          exact .unsupported own kind
      | some found =>
          have bindable : linker.store.Bindable value := ⟨own, found, kind⟩
          have classified : linker.classify module name value = .ok found := by
            simp [classify, own, Store.bindingKind, kind]
          simp only [define, bindClassified, classified, Namespace.insert]
          by_cases collides : linker.shadowing = .reject ∧
              linker.registry.contains module name = true
          · rw [if_pos collides]
            exact .duplicate bindable collides.1 collides.2
          · rw [if_neg collides]
            refine .bound bindable ?_ _
            intro rejects
            exact Bool.not_eq_true _ ▸ fun taken => collides ⟨rejects, taken⟩

section
variable {module name : String} {value : Extern} {linker : Linker}

theorem define_binds_or_collides (bindable : linker.store.Bindable value) :
    (linker.Open module name ∧ ∃ trace, define module name value linker =
      .ok () { linker with
        registry := linker.registry.put module name value
        trace := trace }) ∨
    (linker.shadowing = .reject ∧ linker.registry.contains module name = true ∧
      define module name value linker = .error (.duplicateDefinition module name) linker) := by
  have outcome := defined module name value linker
  generalize define module name value linker = result at outcome ⊢
  cases outcome with
  | foreign own =>
      rw [bindable.own] at own
      cases own
  | unsupported own kind =>
      obtain ⟨found, isKind⟩ := bindable.kind
      rw [isKind] at kind
      cases kind
  | duplicate _ rejects taken => exact Or.inr ⟨rejects, taken, rfl⟩
  | bound _ isOpen trace => exact Or.inl ⟨isOpen, trace, rfl⟩

theorem define_of_bindable (bindable : linker.store.Bindable value)
    (isOpen : linker.Open module name) :
    ∃ trace, define module name value linker =
      .ok () { linker with
        registry := linker.registry.put module name value
        trace := trace } := by
  rcases define_binds_or_collides bindable with ⟨_, bound⟩ | ⟨rejects, taken, _⟩
  · exact bound
  · rw [isOpen rejects] at taken
    cases taken

theorem define_of_taken (bindable : linker.store.Bindable value)
    (rejects : linker.shadowing = .reject)
    (taken : linker.registry.contains module name = true) :
    define module name value linker = .error (.duplicateDefinition module name) linker := by
  rcases define_binds_or_collides bindable with ⟨isOpen, _⟩ | ⟨_, _, collides⟩
  · rw [isOpen rejects] at taken
    cases taken
  · exact collides

end

theorem defineExports_of_bindable {module : String} {exports : List (String × Extern)}
    {linker : Linker} (bindable : ∀ e ∈ exports, linker.store.Bindable e.2)
    (distinct : (exports.map Prod.fst).Nodup) (isOpen : ∀ e ∈ exports, linker.Open module e.1) :
    ∃ trace, defineExports module exports linker =
      .ok () { linker with
        registry := linker.registry.putAll module exports
        trace := trace } := by
  induction exports generalizing linker with
  | nil => exact ⟨linker.trace, rfl⟩
  | cons first rest ih =>
      obtain ⟨name, value⟩ := first
      rw [List.map_cons, List.nodup_cons] at distinct
      obtain ⟨trace, defined⟩ := define_of_bindable (bindable _ List.mem_cons_self)
        (isOpen _ List.mem_cons_self)
      let next : Linker := { linker with
        registry := linker.registry.put module name value
        trace := trace }
      -- The first definition closes its own key only.
      have stillOpen : ∀ e ∈ rest, next.Open module e.1 := by
        intro e member rejects
        have differs : e.1 ≠ name := fun equal =>
          distinct.1 (List.mem_map.mpr ⟨e, member, equal⟩)
        exact (Namespace.contains_put_of_ne linker.registry differs value).trans
          (isOpen e (List.mem_cons_of_mem _ member) rejects)
      obtain ⟨last, others⟩ := @ih next
        (fun e member => bindable e (List.mem_cons_of_mem _ member)) distinct.2 stillOpen
      refine ⟨last, ?_⟩
      simp only [defineExports, bind, EStateM.bind, defined]
      exact others

end Linker

end Linkage
