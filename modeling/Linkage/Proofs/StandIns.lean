import Linkage.Proofs.Resolution
import Linkage.Proofs.Run

/-!
Stand-ins for the function imports of a module that are not bound. They are defined one after the
other, in the order of a list that was made before the first of them. While redefinitions are
refused, the second import of one key therefore collides with the stand-in of the first one, and
what comes after it is left without a stand-in. Where no key comes twice, or redefinitions are
allowed, every function import that was missing gets one.
-/

namespace Linkage

def Import.key (i : Import) : String × String :=
  (i.module, i.name)

def Import.isFunction (i : Import) : Bool :=
  i.type.kind? = some .function

theorem Import.isFunction_iff {i : Import} :
    i.isFunction = true ↔ ∃ type, i.type = .func type := by
  unfold isFunction
  cases i.type <;> simp [ExternType.kind?]

def Module.KeysAgree (m : Module) : Prop :=
  ∀ i ∈ m.imports, ∀ j ∈ m.imports, i.key = j.key → i.type = j.type

namespace Linker

/-- A value that stands for an import: a function that was not in the store before, of the type
that the import declares. It only traps, with a message about the key of the import. -/
def StandsFor (i : Import) (before after : Store) (value : Extern) : Prop :=
  ∃ ref : FuncRef, value = after.handle (.func ref) ∧ i.type = .func ref.type ∧
    before.funcs.length ≤ ref.address ∧
    after.funcs[ref.address]? = some ⟨ref.type, .standIn (standInMessage i.module i.name)⟩

theorem StandsFor.extend {i : Import} {first before after last : Store} {value : Extern}
    (stands : StandsFor i before after value) (earlier : first.Extends before)
    (later : after.Extends last) : StandsFor i first last value := by
  obtain ⟨ref, rfl, declared, new, found⟩ := stands
  refine ⟨ref, ?_, declared, Nat.le_trans earlier.funcs.length_le new, later.getElem?_funcs found⟩
  simp only [Store.handle, later.id]

theorem defineStandIn_of_open {i : Import} {linker : Linker} (function : i.isFunction = true)
    (isOpen : linker.Open i.module i.name) :
    ∃ value after, defineStandIn i linker = .ok () after ∧
      StandsFor i linker.store after.store value ∧ linker.store.Extends after.store ∧
      after.registry = linker.registry.put i.module i.name value ∧
      after.shadowing = linker.shadowing := by
  obtain ⟨type, declared⟩ := Import.isFunction_iff.mp function
  let func : FuncInst := ⟨type, .standIn (standInMessage i.module i.name)⟩
  let ref := (linker.store.addFunc func).1
  let added : Linker := { linker with store := (linker.store.addFunc func).2 }
  have stillOpen : added.Open i.module i.name := isOpen
  obtain ⟨trace, bound⟩ := define_of_bindable (added.store.bindable_func ref) stillOpen
  refine ⟨added.store.handle (.func ref), { added with registry := _, trace := trace }, ?_, ?_,
    linker.store.extends_addFunc func, rfl, rfl⟩
  · simp only [defineStandIn, declared]
    exact bound
  · exact ⟨ref, rfl, declared, Nat.le_refl _, by simp [added, ref, func, Store.addFunc]⟩

theorem defineStandIn_of_taken {i : Import} {linker : Linker} (function : i.isFunction = true)
    (rejects : linker.shadowing = .reject)
    (taken : linker.registry.contains i.module i.name = true) :
    ∃ store, defineStandIn i linker =
        .error (.duplicateDefinition i.module i.name) { linker with store := store } ∧
      linker.store.Extends store := by
  obtain ⟨type, declared⟩ := Import.isFunction_iff.mp function
  let func : FuncInst := ⟨type, .standIn (standInMessage i.module i.name)⟩
  let ref := (linker.store.addFunc func).1
  let added : Linker := { linker with store := (linker.store.addFunc func).2 }
  have stillTaken : added.registry.contains i.module i.name = true := taken
  refine ⟨added.store, ?_, linker.store.extends_addFunc func⟩
  simp only [defineStandIn, declared]
  exact define_of_taken (added.store.bindable_func ref) rejects stillTaken

theorem defineStandIn_of_other {i : Import} (other : i.isFunction = false) :
    defineStandIn i = pure () := by
  funext linker
  unfold Import.isFunction at other
  unfold defineStandIn
  cases declared : i.type <;> simp_all [ExternType.kind?] <;> rfl

theorem defineStandIns_filter (imports : List Import) :
    defineStandIns imports = defineStandIns (imports.filter Import.isFunction) := by
  induction imports with
  | nil => rfl
  | cons i rest ih =>
      cases function : i.isFunction with
      | true => rw [List.filter_cons_of_pos function, defineStandIns, defineStandIns, ih]
      | false =>
          rw [List.filter_cons_of_neg (by simp [function]), defineStandIns,
            defineStandIn_of_other function, ih]
          rfl

structure StandIns (imports : List Import) (before after : Linker) : Prop where
  shadowing : after.shadowing = before.shadowing
  store : before.store.Extends after.store
  stands : ∀ key ∈ imports.map Import.key, ∃ i ∈ imports, i.key = key ∧ ∃ value,
    after.get? key.1 key.2 = some value ∧ StandsFor i before.store after.store value
  others : ∀ key ∉ imports.map Import.key, after.get? key.1 key.2 = before.get? key.1 key.2
  fresh : before.shadowing = .reject → (imports.map Import.key).Nodup ∧
    ∀ key ∈ imports.map Import.key, before.get? key.1 key.2 = none

theorem standIns_nil {before after : Linker} (registry : after.registry = before.registry)
    (shadowing : after.shadowing = before.shadowing) (store : before.store.Extends after.store) :
    StandIns [] before after where
  shadowing := shadowing
  store := store
  stands := by simp
  others := by simp [get?, registry]
  fresh := by simp

theorem StandIns.cons {i : Import} {rest : List Import} {value : Extern}
    {before next after : Linker} (isOpen : before.Open i.module i.name)
    (stands : StandsFor i before.store next.store value) (store : before.store.Extends next.store)
    (registry : next.registry = before.registry.put i.module i.name value)
    (shadowing : next.shadowing = before.shadowing) (others : StandIns rest next after) :
    StandIns (i :: rest) before after where
  shadowing := others.shadowing.trans shadowing
  store := store.trans others.store
  stands := by
    intro key member
    by_cases later : key ∈ rest.map Import.key
    · obtain ⟨j, inRest, same, found, bound, standsLater⟩ := others.stands key later
      exact ⟨j, List.mem_cons_of_mem i inRest, same, found, bound,
        standsLater.extend store Store.Extends.rfl⟩
    · -- The stand-in of the first import has not been replaced since.
      have same : i.key = key := by simpa [later, eq_comm] using member
      subst same
      refine ⟨i, List.mem_cons_self, rfl, value, ?_, stands.extend Store.Extends.rfl others.store⟩
      rw [others.others i.key later, get?, registry]
      exact before.registry.get?_put_self i.module i.name value
  others := by
    intro key absent
    rw [List.map_cons, List.mem_cons, not_or] at absent
    rw [others.others key absent.2, get?, registry]
    exact before.registry.get?_put_of_ne absent.1 value
  fresh := by
    intro rejects
    obtain ⟨distinct, free⟩ := others.fresh (shadowing.trans rejects)
    have unbound : before.get? i.module i.name = none := by
      simpa [get?, Namespace.contains] using isOpen rejects
    have differs : ∀ key ∈ rest.map Import.key, key ≠ i.key := by
      rintro key member rfl
      have taken := free i.key member
      rw [get?, registry, Import.key, Namespace.get?_put_self] at taken
      cases taken
    refine ⟨List.nodup_cons.mpr ⟨fun member => differs i.key member rfl, distinct⟩, ?_⟩
    rw [List.map_cons, List.forall_mem_cons]
    refine ⟨unbound, ?_⟩
    intro key member
    have stillFree := free key member
    rw [get?, registry, Namespace.get?_put_of_ne _ (differs key member)] at stillFree
    exact stillFree

/-- The outcomes of defining stand-ins for functions: all of them are defined, or the first one
whose key may not be bound again ends it. -/
inductive StoodIn (imports : List Import) (linker : Linker) :
    EStateM.Result LinkError Linker Unit → Prop where
  | completed {after : Linker} (standIns : StandIns imports linker after) :
      StoodIn imports linker (.ok () after)
  | stopped {earlier later : List Import} {i : Import} {after : Linker}
      (split : imports = earlier ++ i :: later) (standIns : StandIns earlier linker after)
      (rejects : linker.shadowing = .reject)
      (taken : after.registry.contains i.module i.name = true) :
      StoodIn imports linker (.error (.duplicateDefinition i.module i.name) after)

theorem stoodIn {imports : List Import} (functions : ∀ i ∈ imports, i.isFunction = true)
    (linker : Linker) : StoodIn imports linker (defineStandIns imports linker) := by
  induction imports generalizing linker with
  | nil => exact .completed (standIns_nil rfl rfl Store.Extends.rfl)
  | cons i rest ih =>
      rw [List.forall_mem_cons] at functions
      obtain ⟨function, functions⟩ := functions
      by_cases isOpen : linker.Open i.module i.name
      · obtain ⟨value, next, head, stands, store, registry, shadowing⟩ :=
          defineStandIn_of_open function isOpen
        have continued : defineStandIns (i :: rest) linker = defineStandIns rest next := by
          simp only [defineStandIns, bind, EStateM.bind, head]
        have outcome := ih functions next
        rw [continued]
        generalize defineStandIns rest next = result at outcome
        cases outcome with
        | completed others =>
            exact .completed (others.cons isOpen stands store registry shadowing)
        | stopped split others rejects taken =>
            exact .stopped (congrArg (i :: ·) split)
              (others.cons isOpen stands store registry shadowing)
              (shadowing.symm.trans rejects) taken
      · rw [Open, Classical.not_imp, Bool.not_eq_false] at isOpen
        obtain ⟨rejects, taken⟩ := isOpen
        obtain ⟨store, head, extended⟩ := defineStandIn_of_taken function rejects taken
        have stopped : defineStandIns (i :: rest) linker =
            .error (.duplicateDefinition i.module i.name) { linker with store := store } := by
          simp only [defineStandIns, bind, EStateM.bind, head]
        have first : i :: rest = [] ++ i :: rest := rfl
        rw [stopped]
        exact .stopped first (standIns_nil rfl rfl extended) rejects taken

variable {linker after : Linker} {m : Module}

def missingFunctions (linker : Linker) (m : Module) : List Import :=
  (linker.unresolvedImports m).filter Import.isFunction

theorem mem_unresolvedImports_iff {i : Import} :
    i ∈ linker.unresolvedImports m ↔ i ∈ m.imports ∧ linker.get? i.module i.name = none := by
  simp [unresolvedImports, get?, Namespace.contains]

theorem mem_missingFunctions_iff {i : Import} : i ∈ linker.missingFunctions m ↔
    (i ∈ m.imports ∧ linker.get? i.module i.name = none) ∧ i.isFunction = true := by
  rw [missingFunctions, List.mem_filter, mem_unresolvedImports_iff]

theorem defineUnknownImports_eq (m : Module) (linker : Linker) :
    defineUnknownImports m linker = defineStandIns (linker.missingFunctions m) linker :=
  congrFun (defineStandIns_filter (linker.unresolvedImports m)) linker

theorem defineUnknownImports_stoodIn (m : Module) (linker : Linker) :
    StoodIn (linker.missingFunctions m) linker (defineUnknownImports m linker) := by
  rw [defineUnknownImports_eq]
  exact stoodIn (fun i member => (mem_missingFunctions_iff.mp member).2) linker

theorem StandIns.missingFunctions_eq_nil
    (standIns : StandIns (linker.missingFunctions m) linker after) :
    after.missingFunctions m = [] := by
  rw [List.eq_nil_iff_forall_not_mem]
  intro i member
  obtain ⟨⟨declared, unbound⟩, function⟩ := mem_missingFunctions_iff.mp member
  by_cases covered : i.key ∈ (linker.missingFunctions m).map Import.key
  · obtain ⟨_, _, _, value, found, _⟩ := standIns.stands i.key covered
    have contrary : none = some value := unbound.symm.trans found
    cases contrary
  · have before : linker.get? i.module i.name = none :=
      (standIns.others i.key covered).symm.trans unbound
    exact covered (List.mem_map_of_mem
      (mem_missingFunctions_iff.mpr ⟨⟨declared, before⟩, function⟩))

theorem defineUnknownImports_of_none (none : linker.missingFunctions m = []) :
    defineUnknownImports m linker = .ok () linker := by
  rw [defineUnknownImports_eq, none]
  rfl

theorem resolve_ne_unresolved_function (none : linker.missingFunctions m = [])
    (module name : String) (type : FuncType) :
    linker.resolve m ≠ .error (.unresolvedImport module name (.func type)) := by
  intro failed
  obtain ⟨_, i, found, misfit, _⟩ := resolveImports_eq_error_iff.mp failed
  generalize wrapped : LinkError.unresolvedImport module name (.func type) = error at misfit
  cases misfit with
  | unresolved unbound =>
      injection wrapped with _ _ declared
      have member : i ∈ linker.missingFunctions m := mem_missingFunctions_iff.mpr
        ⟨⟨List.mem_of_getElem? found, unbound⟩, Import.isFunction_iff.mpr ⟨type, declared.symm⟩⟩
      rw [none] at member
      cases member
  | mismatched _ _ => cases wrapped

/-- An import that was unresolved is bound to nothing, or to a stand-in of the type that all of
the imports of its key declare. -/
theorem StandIns.resolve_ne_mismatch
    (standIns : StandIns (linker.missingFunctions m) linker after) (keysAgree : m.KeysAgree)
    {i : Import} (member : i ∈ linker.unresolvedImports m) (expected found : ExternType) :
    after.resolve m ≠ .error (.importTypeMismatch i.module i.name expected found) := by
  intro failed
  obtain ⟨declared, unbound⟩ := mem_unresolvedImports_iff.mp member
  obtain ⟨_, j, at_k, misfit, _⟩ := resolveImports_eq_error_iff.mp failed
  generalize wrapped : LinkError.importTypeMismatch i.module i.name expected found = error
    at misfit
  cases misfit with
  | unresolved _ => cases wrapped
  | @mismatched value bound incompatible =>
      injection wrapped with sameModule sameName
      rw [← sameModule, ← sameName] at bound
      by_cases covered : i.key ∈ (linker.missingFunctions m).map Import.key
      · obtain ⟨k, missing, sameKey, other, stands, ref, rfl, function, _⟩ :=
          standIns.stands i.key covered
        have sameValue : value = after.store.handle (.func ref) :=
          Option.some.inj (bound.symm.trans stands)
        have keys : j.key = k.key := by
          rw [sameKey, Import.key, Import.key, sameModule, sameName]
        have type : j.type = .func ref.type := function ▸ keysAgree j
          (List.mem_of_getElem? at_k) k (mem_missingFunctions_iff.mp missing).1.1 keys
        simp [compatible, type, sameValue, Store.typeOf, Store.handle, ExternType.accepts]
          at incompatible
      · have contrary := (standIns.others i.key covered).trans unbound
        rw [Import.key, bound] at contrary
        cases contrary

theorem StandIns.repeats {earlier later : List Import} {i : Import}
    (split : linker.missingFunctions m = earlier ++ i :: later)
    (standIns : StandIns earlier linker after)
    (taken : after.registry.contains i.module i.name = true) : i.key ∈ earlier.map Import.key := by
  by_contra absent
  have missing : i ∈ linker.missingFunctions m := by simp [split]
  have unbound := (mem_missingFunctions_iff.mp missing).1.2
  have still : after.get? i.module i.name = none := (standIns.others i.key absent).trans unbound
  rw [get?] at still
  simp [Namespace.contains, still] at taken

theorem defineUnknownImports_succeeds_iff (linker : Linker) (m : Module) :
    (∃ after, defineUnknownImports m linker = .ok () after) ↔
      linker.shadowing = .allow ∨ ((linker.missingFunctions m).map Import.key).Nodup := by
  have outcome := defineUnknownImports_stoodIn m linker
  generalize defineUnknownImports m linker = result at outcome
  cases outcome with
  | @completed after standIns =>
      refine ⟨fun _ => ?_, fun _ => ⟨after, rfl⟩⟩
      cases setting : linker.shadowing with
      | allow => exact Or.inl rfl
      | reject => exact Or.inr (standIns.fresh setting).1
  | stopped split standIns rejects taken =>
      have repeated := standIns.repeats split taken
      constructor
      · rintro ⟨_, contrary⟩
        cases contrary
      · rintro (allows | distinct)
        · rw [rejects] at allows
          cases allows
        · rw [split, List.map_append, List.map_cons, List.nodup_append] at distinct
          exact absurd rfl (distinct.2.2 _ repeated _ List.mem_cons_self)

/-- A function that is imported twice, with one type, before another function: the second import
of its key ends it on a new linker, and the other function is left without a stand-in. -/
theorem defineUnknownImports_stops_at_repeated_key :
    let twice : Import := ⟨"env", "f", .func ⟨[], []⟩⟩
    let last : Import := ⟨"env", "g", .func ⟨[], []⟩⟩
    let m : Module := { imports := [twice, twice, last] }
    m.KeysAgree ∧ ∃ after, defineUnknownImports m (new { id := 0 }) =
        .error (.duplicateDefinition "env" "f") after ∧
      after.unresolvedImports m = [last] ∧
      after.resolve m = .error (.unresolvedImport "env" "g" (.func ⟨[], []⟩)) := by
  intro twice last m
  refine ⟨?_, _, rfl, by decide, rfl⟩
  unfold Module.KeysAgree
  decide

/-- Whether every missing function gets a stand-in, and what follows if it does. Redefinitions have
to be allowed, or no two missing functions may be of one key. Then no function import is
unresolved any more, so resolving the module blames none for it. If all imports of a key declare
one type, resolving blames no import that was unresolved for its type. A second time changes
nothing. If redefinitions are refused, the first repeated key ends it, with what was defined
before. -/
theorem defineUnknownImports_completes_iff (linker : Linker) (m : Module) :
    ((∃ after, defineUnknownImports m linker = .ok () after) ↔
      linker.shadowing = .allow ∨ ((linker.missingFunctions m).map Import.key).Nodup) ∧
    (∀ after, defineUnknownImports m linker = .ok () after →
      (∀ i ∈ after.unresolvedImports m, i.isFunction = false) ∧
      (∀ module name type,
        after.resolve m ≠ .error (.unresolvedImport module name (.func type))) ∧
      (m.KeysAgree → ∀ i ∈ linker.unresolvedImports m, ∀ expected found,
        after.resolve m ≠ .error (.importTypeMismatch i.module i.name expected found)) ∧
      defineUnknownImports m after = .ok () after) ∧
    ∀ error after, defineUnknownImports m linker = .error error after →
      ∃ earlier i later, linker.missingFunctions m = earlier ++ i :: later ∧
        i.key ∈ earlier.map Import.key ∧ error = .duplicateDefinition i.module i.name ∧
        StandIns earlier linker after := by
  have outcome := defineUnknownImports_stoodIn m linker
  refine ⟨defineUnknownImports_succeeds_iff linker m, ?_, ?_⟩
  · intro after success
    rw [success] at outcome
    cases outcome with
    | completed standIns =>
        have none := standIns.missingFunctions_eq_nil
        refine ⟨?_, resolve_ne_unresolved_function none, ?_, defineUnknownImports_of_none none⟩
        · intro i member
          simpa using List.filter_eq_nil_iff.mp none i member
        · intro keysAgree i member expected found
          exact standIns.resolve_ne_mismatch keysAgree member expected found
  · intro error after failed
    rw [failed] at outcome
    cases outcome with
    | stopped split standIns _ taken =>
        exact ⟨_, _, _, split, standIns.repeats split taken, rfl, standIns⟩

/-- A module that imports a function twice and a memory. Where redefinitions are allowed both
imports of the function get a stand-in, and only the memory is unresolved. Where they are refused
the second import is the one that ends it. -/
theorem defineUnknownImports_of_repeated_key :
    let twice : Import := ⟨"env", "f", .func ⟨[.i32], []⟩⟩
    let memory : Import := ⟨"env", "memory", .memory ⟨1, none, false⟩⟩
    let m : Module := { imports := [twice, memory, twice] }
    let allowing := (new { id := 0 }).run [.allowShadowing true]
    (∃ after, defineUnknownImports m allowing = .ok () after ∧
      (∀ i ∈ after.unresolvedImports m, i.isFunction = false) ∧
      after.resolve m ≠ .error (.unresolvedImport "env" "f" twice.type) ∧
      after.resolve m ≠ .error (.importTypeMismatch "env" "f" twice.type twice.type) ∧
      defineUnknownImports m after = .ok () after) ∧
    ∃ error after earlier i later, defineUnknownImports m (new { id := 0 }) = .error error after ∧
      (new { id := 0 }).missingFunctions m = earlier ++ i :: later ∧
      i.key ∈ earlier.map Import.key ∧ error = .duplicateDefinition i.module i.name := by
  intro twice memory m allowing
  have keysAgree : m.KeysAgree := by
    unfold Module.KeysAgree
    decide
  constructor
  · obtain ⟨after, success⟩ := (defineUnknownImports_completes_iff allowing m).1.mpr (Or.inl rfl)
    obtain ⟨left, unresolved, mismatch, again⟩ :=
      (defineUnknownImports_completes_iff allowing m).2.1 after success
    have member : twice ∈ allowing.unresolvedImports m := List.mem_cons_self
    exact ⟨after, success, left, unresolved _ _ _, mismatch keysAgree twice member _ _, again⟩
  · obtain ⟨error, after, failed⟩ : ∃ error after,
        defineUnknownImports m (new { id := 0 }) = .error error after := ⟨_, _, rfl⟩
    obtain ⟨earlier, i, later, split, repeated, duplicate, _⟩ :=
      (defineUnknownImports_completes_iff (new { id := 0 }) m).2.2 error after failed
    exact ⟨error, after, earlier, i, later, failed, split, repeated, duplicate⟩

end Linker

end Linkage
