import Mathlib.Logic.Relation
import Linkage.Capability
import Linkage.Linker.StandIn
import Linkage.Manifest.Apply
import Linkage.Proofs.Registration

/-!
Runs of a linker: operations of any kind, with any arguments and in any order, whether they
succeed or fail, and between them whatever a program does with the store by itself. Every
operation is made of three kinds of changes. It binds a value that may be bound to a key that is
open, it extends the store, or it adds to the trace; before that, at most, it makes the setting
for redefinitions. Handles on things of other stores, and handles that nothing stands behind, are
arguments like any other.
-/

namespace Linkage

inductive StoreOperation where
  | newFunc (func : FuncInst)
  | newGlobal (type : GlobalType) (value : Value)
  | newMemory (type : MemoryType)
  | newTable (type : TableType)
  | newTag (type : TagType)
  | newInstance (m : Module) (values : List Extern)
  | setGlobal (ref : GlobalRef) (value : Value)
  | growMemory (ref : MemoryRef) (pages : Nat)
  | call (func : FuncRef) (args : List Value)

namespace StoreOperation

def perform (engine : Engine) (store : Store) : StoreOperation → Store
  | .newFunc func => stateAfter (Access.newFunc func) store
  | .newGlobal type value => stateAfter (Access.newGlobal type value) store
  | .newMemory type => stateAfter (Access.newMemory type) store
  | .newTable type => stateAfter (Access.newTable type) store
  | .newTag type => stateAfter (Access.newTag type) store
  | .newInstance m values => stateAfter (engine.instantiate m values) store
  | .setGlobal ref value => stateAfter (Access.setGlobal ref value) store
  | .growMemory ref pages => stateAfter (Access.growMemory ref pages) store
  | .call func args => stateAfter (Access.call func args) store

theorem perform_extends (engine : Engine) (store : Store) (operation : StoreOperation) :
    store.Extends (operation.perform engine store) := by
  cases operation with
  | newFunc func => exact Access.newFunc_extends func store
  | newGlobal type value => exact Access.newGlobal_extends type value store
  | newMemory type => exact Access.newMemory_extends type store
  | newTable type => exact Access.newTable_extends type store
  | newTag type => exact Access.newTag_extends type store
  | newInstance m values => exact engine.grows m values store
  | setGlobal ref value => exact Access.setGlobal_extends ref value store
  | growMemory ref pages => exact Access.growMemory_extends ref pages store
  | call func args => exact Access.call_extends func args store

end StoreOperation

namespace Linker

inductive Operation where
  | allowShadowing (allowed : Bool)
  | define (module name : String) (value : Extern)
  | defineExports (module : String) (exports : List (String × Extern))
  | defineInstance (module : String) (inst : Instance)
  | defineHost (capability : Capability)
  | defineWasi (capability : Capability)
  | defineUnknownImports (m : Module)
  | instantiate (m : Module)
  | register (module : String) (m : Module)
  | apply (files : FileSystem) (manifest : Manifest)
  | onStore (operation : StoreOperation)

def Operation.perform (linker : Linker) : Operation → Linker
  | .allowShadowing allowed => linker.allowShadowing allowed
  | .define module name value => stateAfter (Linker.define module name value) linker
  | .defineExports module exports => stateAfter (Linker.defineExports module exports) linker
  | .defineInstance module inst => stateAfter (Linker.defineInstance module inst) linker
  | .defineHost capability => stateAfter (Linker.defineHost capability) linker
  | .defineWasi capability => stateAfter (Linker.defineWasi capability) linker
  | .defineUnknownImports m => stateAfter (Linker.defineUnknownImports m) linker
  | .instantiate m => stateAfter (Linker.instantiate m) linker
  | .register module m => stateAfter (Linker.register module m) linker
  | .apply files manifest => stateAfter (manifest.apply files) linker
  | .onStore operation => { linker with store := operation.perform linker.engine linker.store }

def run (linker : Linker) (operations : List Operation) : Linker :=
  operations.foldl Operation.perform linker

inductive Step : Linker → Linker → Prop where
  | bind {linker : Linker} {module name : String} {value : Extern}
      (bindable : linker.store.Bindable value) (isOpen : linker.Open module name) :
      Step linker { linker with registry := linker.registry.put module name value }
  | extend {linker : Linker} {store : Store} (extension : linker.store.Extends store) :
      Step linker { linker with store := store }
  | trace {linker : Linker} (trace : List TraceEntry) : Step linker { linker with trace := trace }

abbrev Steps : Linker → Linker → Prop := Relation.ReflTransGen Step

theorem Steps.extends {before after : Linker} (steps : Steps before after) :
    before.store.Extends after.store := by
  induction steps with
  | refl => exact Store.Extends.rfl
  | tail _ step ih =>
      cases step with
      | bind _ _ => exact ih
      | extend extension => exact ih.trans extension
      | trace _ => exact ih

theorem steps_emit (entry : TraceEntry) (linker : Linker) : Steps linker (linker.emit entry) :=
  Relation.ReflTransGen.single (Step.trace _)

theorem define_steps (module name : String) (value : Extern) :
    Moves Steps (define module name value) := by
  intro linker
  have outcome := defined module name value linker
  unfold stateAfter
  generalize define module name value linker = result at outcome
  cases outcome with
  | foreign _ => exact Relation.ReflTransGen.refl
  | unsupported _ _ => exact Relation.ReflTransGen.refl
  | duplicate _ _ _ => exact Relation.ReflTransGen.refl
  | bound bindable isOpen trace =>
      have bound : Steps linker { linker with
          registry := linker.registry.put module name value } :=
        Relation.ReflTransGen.single (Step.bind bindable isOpen)
      exact bound.tail (Step.trace trace)

theorem defineExports_steps (module : String) (exports : List (String × Extern)) :
    Moves Steps (defineExports module exports) := by
  induction exports with
  | nil => exact moves_pure ()
  | cons first rest ih => exact moves_bind (define_steps module first.1 first.2) fun _ => ih

theorem defineWasi_steps (capability : Capability) : Moves Steps (defineWasi capability) :=
  fun linker => (steps_emit _ linker).trans (defineExports_steps _ _ _)

theorem defineStandIn_steps (i : Import) : Moves Steps (defineStandIn i) := by
  intro linker
  obtain ⟨module, name, type⟩ := i
  cases type with
  | func type =>
      have added : Step linker { linker with
          store := (linker.store.addFunc ⟨type, .standIn (standInMessage module name)⟩).2 } :=
        Step.extend (linker.store.extends_addFunc _)
      exact Relation.ReflTransGen.head added (define_steps module name _ _)
  | global _ => exact Relation.ReflTransGen.refl
  | memory _ => exact Relation.ReflTransGen.refl
  | table _ => exact Relation.ReflTransGen.refl
  | tag _ => exact Relation.ReflTransGen.refl

theorem defineStandIns_steps (imports : List Import) : Moves Steps (defineStandIns imports) := by
  induction imports with
  | nil => exact moves_pure ()
  | cons i rest ih => exact moves_bind (defineStandIn_steps i) fun _ => ih

theorem instantiate_steps (m : Module) : Moves Steps (instantiate m) := by
  intro linker
  have outcome := instantiates m linker
  have extension := linker.engine.grows m
  unfold stateAfter
  generalize instantiate m linker = result at outcome
  cases outcome with
  | unresolved _ trace => exact Relation.ReflTransGen.single (Step.trace trace)
  | refused _ _ trace => exact Relation.ReflTransGen.single (Step.trace trace)
  | @trapped values _ _ _ failed trace =>
      have extended := extension values linker.store
      rw [stateAfter_eq_of_error failed] at extended
      exact Relation.ReflTransGen.head (Step.extend extended)
        (Relation.ReflTransGen.single (Step.trace trace))
  | @made values _ _ _ made trace =>
      have extended := extension values linker.store
      rw [stateAfter_eq_of_ok made] at extended
      exact Relation.ReflTransGen.head (Step.extend extended)
        (Relation.ReflTransGen.single (Step.trace trace))

theorem instantiateAndDefine_steps (module : String) (m : Module) :
    Moves Steps (instantiateAndDefine module m) :=
  moves_bind (instantiate_steps m) fun inst =>
    moves_bind (moves_adaptExcept (defineExports_steps module inst.exports) _) fun _ =>
      moves_pure inst

theorem register_steps (module : String) (m : Module) : Moves Steps (register module m) := by
  intro linker
  rcases register_cases module m linker with ⟨_, trace, _, _, refused⟩ | ⟨_, passed⟩
  · rw [stateAfter_eq_of_error refused]
    exact Relation.ReflTransGen.single (Step.trace trace)
  · have whole : stateAfter (register module m) linker =
        stateAfter (instantiateAndDefine module m) linker := by
      rw [stateAfter, passed, stateAfter]
    rw [whole]
    exact instantiateAndDefine_steps module m linker

theorem settle_steps {α : Type} (outcome : Except ManifestError α) :
    Moves Steps (Manifest.settle outcome) := by
  intro linker
  cases outcome with
  | ok _ => exact Relation.ReflTransGen.refl
  | error _ => exact Relation.ReflTransGen.refl

theorem applyPreload_steps (files : FileSystem) (manifest : Manifest) (preload : Preload) :
    Moves Steps (manifest.applyPreload files preload) := by
  refine moves_bind (settle_steps _) fun m => ?_
  refine moves_bind (moves_modify fun linker => steps_emit _ linker) fun _ => ?_
  exact moves_bind (moves_adaptExcept (register_steps preload.name m) _) fun _ => moves_pure ()

theorem applyAlias_steps (copy : Alias) : Moves Steps (Manifest.applyAlias copy) := by
  intro linker
  unfold stateAfter Manifest.applyAlias
  cases found : linker.get? copy.fromModule copy.fromName with
  | none => exact Relation.ReflTransGen.refl
  | some value =>
      exact moves_adaptExcept (define_steps copy.module copy.name value) ManifestError.link linker

theorem applyMain_steps (files : FileSystem) (manifest : Manifest) :
    Moves Steps (manifest.applyMain files) := by
  unfold Manifest.applyMain
  cases manifest.main with
  | none => exact moves_pure none
  | some main =>
      refine moves_bind (settle_steps _) fun m => ?_
      exact moves_bind (moves_adaptExcept (instantiate_steps m) _) fun inst => moves_pure _

theorem apply_steps (files : FileSystem) (manifest : Manifest) (linker : Linker) :
    Steps (manifest.applyShadowing linker) (stateAfter (manifest.apply files) linker) := by
  have rest : Moves Steps (do
      manifest.preloads.forM (manifest.applyPreload files)
      manifest.aliases.forM Manifest.applyAlias
      manifest.applyMain files : Linking ManifestError (Option Instance)) :=
    moves_bind (moves_forM (applyPreload_steps files manifest) _) fun _ =>
      moves_bind (moves_forM applyAlias_steps _) fun _ => applyMain_steps files manifest
  exact rest (manifest.applyShadowing linker)

/-- The setting for redefinitions that an operation makes before anything else. -/
def Operation.configure (linker : Linker) : Operation → Linker
  | .allowShadowing allowed => linker.allowShadowing allowed
  | .apply _ manifest => manifest.applyShadowing linker
  | _ => linker

theorem Operation.perform_steps (linker : Linker) (operation : Operation) :
    Steps (operation.configure linker) (operation.perform linker) := by
  cases operation with
  | allowShadowing _ => exact Relation.ReflTransGen.refl
  | define module name value => exact define_steps module name value linker
  | defineExports module exports => exact defineExports_steps module exports linker
  | defineInstance module inst => exact defineExports_steps module inst.exports linker
  | defineHost capability => exact defineExports_steps capability.module capability.exports linker
  | defineWasi capability => exact defineWasi_steps capability linker
  | defineUnknownImports m => exact defineStandIns_steps (linker.unresolvedImports m) linker
  | instantiate m => exact instantiate_steps m linker
  | register module m => exact register_steps module m linker
  | apply files manifest => exact apply_steps files manifest linker
  | onStore operation =>
      exact Relation.ReflTransGen.single
        (Step.extend (operation.perform_extends linker.engine linker.store))

/-- What every step preserves, and every making of the setting, holds after a whole run. -/
theorem run_induction {property : Linker → Prop}
    (step : ∀ {before after : Linker}, Step before after → property before → property after)
    (setting : ∀ (linker : Linker) (shadowing : Shadowing),
      property linker → property { linker with shadowing := shadowing })
    {linker : Linker} (start : property linker) (operations : List Operation) :
    property (linker.run operations) := by
  induction operations generalizing linker with
  | nil => exact start
  | cons operation rest ih =>
      -- An operation is the making of the setting and then steps, so two inductions meet here.
      have configured : property (operation.configure linker) := by
        cases operation with
        | allowShadowing allowed => exact setting linker _ start
        | apply files manifest =>
            simp only [Operation.configure, Manifest.applyShadowing]
            split
            · exact setting linker _ start
            · exact start
        | _ => exact start
      have steps := operation.perform_steps linker
      have performed : property (operation.perform linker) := by
        generalize operation.perform linker = after at steps
        induction steps with
        | refl => exact configured
        | tail _ next held => exact step next held
      exact ih performed

theorem run_extends (linker : Linker) (operations : List Operation) :
    linker.store.Extends (linker.run operations).store := by
  have stepExtends : ∀ {before after : Linker}, Step before after →
      linker.store.Extends before.store → linker.store.Extends after.store := by
    intro before after step held
    exact held.trans (Steps.extends (Relation.ReflTransGen.single step))
  exact run_induction stepExtends (fun _ _ held => held) Store.Extends.rfl operations

end Linker

end Linkage
