import Linkage.Proofs.EntryOrder
import Linkage.Proofs.Stability

/-!
What a capability registers. However often a name was inserted, the capability has it once, with the
value that was inserted last. So its names never collide with each other, and it is registered as a
whole wherever none of them is taken or redefinitions are allowed. Once it is registered its names
are taken for good, and while redefinitions are refused it is not registered again.
-/

namespace Linkage

def lastInserted (inserted : List (String × Extern)) (name : String) : Option Extern :=
  inserted.reverse.lookup name

theorem lastInserted_cons (first : String × Extern) (rest : List (String × Extern))
    (name : String) :
    lastInserted (first :: rest) name =
      (lastInserted rest name).or (if name = first.1 then some first.2 else none) := by
  rw [lastInserted, List.reverse_cons, List.lookup_append, ← lastInserted]
  by_cases same : name = first.1
  · rw [if_pos same, same, List.lookup_cons_self]
  · rw [if_neg same, List.lookup_cons, beq_false_of_ne same, List.lookup_nil]

theorem lookup_putNamed {α : Type} (name : String) (value : α) (named : List (String × α))
    (other : String) :
    (putNamed name value named).lookup other =
      (if other = name then some value else none).or (named.lookup other) := by
  by_cases same : other = name
  · rw [if_pos same, same, lookup_putNamed_self, Option.some_or]
  · rw [if_neg same, lookup_putNamed_of_ne same, Option.none_or]

theorem names_prefix_putNamed {α : Type} (name : String) (value : α) (named : List (String × α)) :
    named.map Prod.fst <+: (putNamed name value named).map Prod.fst := by
  induction named with
  | nil => exact List.nil_prefix
  | cons first rest ih =>
      rw [putNamed]
      split
      · next same => simp [same]
      · simpa using ih

namespace Capability

variable {module name : String} {value : Extern} {inserted : List (String × Extern)}

theorem module_insertAll (capability : Capability) (inserted : List (String × Extern)) :
    (capability.insertAll inserted).module = capability.module := by
  induction inserted generalizing capability with
  | nil => rfl
  | cons first rest ih => exact ih (capability.insert first.1 first.2)

theorem lookup_insertAll (capability : Capability) (inserted : List (String × Extern))
    (name : String) :
    (capability.insertAll inserted).exports.lookup name =
      (lastInserted inserted name).or (capability.exports.lookup name) := by
  induction inserted generalizing capability with
  | nil => rfl
  | cons first rest ih =>
      calc
        (capability.insertAll (first :: rest)).exports.lookup name
            = (lastInserted rest name).or
                ((putNamed first.1 first.2 capability.exports).lookup name) := ih _
        _ = (lastInserted (first :: rest) name).or (capability.exports.lookup name) := by
              rw [lookup_putNamed, lastInserted_cons, Option.or_assoc]

theorem nodup_insertAll {capability : Capability}
    (distinct : (capability.exports.map Prod.fst).Nodup) (inserted : List (String × Extern)) :
    ((capability.insertAll inserted).exports.map Prod.fst).Nodup := by
  induction inserted generalizing capability with
  | nil => exact distinct
  | cons first rest ih => exact ih (nodup_putNamed distinct)

theorem names_prefix_insertAll (capability : Capability) (inserted : List (String × Extern)) :
    capability.exports.map Prod.fst <+: (capability.insertAll inserted).exports.map Prod.fst := by
  induction inserted generalizing capability with
  | nil => exact List.prefix_rfl
  | cons first rest ih =>
      have later := ih (capability.insert first.1 first.2)
      exact (names_prefix_putNamed first.1 first.2 capability.exports).trans later

theorem nodup_exports (module : String) (inserted : List (String × Extern)) :
    (((new module).insertAll inserted).exports.map Prod.fst).Nodup := by
  have start : ((new module).exports.map Prod.fst).Nodup := List.nodup_nil
  exact nodup_insertAll start inserted

theorem lookup_exports :
    ((new module).insertAll inserted).exports.lookup name = lastInserted inserted name := by
  rw [lookup_insertAll, new, List.lookup_nil, Option.or_none]

theorem mem_exports_iff :
    (name, value) ∈ ((new module).insertAll inserted).exports ↔
      lastInserted inserted name = some value := by
  rw [← lookup_eq_some_iff_mem (nodup_exports module inserted), lookup_exports]

theorem mem_inserted (member : (name, value) ∈ ((new module).insertAll inserted).exports) :
    (name, value) ∈ inserted := by
  rw [mem_exports_iff] at member
  exact List.mem_reverse.mp (mem_of_lookup member)

theorem exports_cons (module : String) (first : String × Extern) (rest : List (String × Extern)) :
    ∃ value others,
      ((new module).insertAll (first :: rest)).exports = (first.1, value) :: others := by
  have names : [first.1] <+: ((new module).insertAll (first :: rest)).exports.map Prod.fst :=
    names_prefix_insertAll ((new module).insert first.1 first.2) rest
  generalize ((new module).insertAll (first :: rest)).exports = exports at names
  cases exports with
  | nil => simp at names
  | cons entry others =>
      rw [List.map_cons, List.cons_prefix_cons] at names
      exact ⟨entry.2, others, by rw [names.1]⟩

end Capability

/-- The value that entries give to a key, where a later entry of the key replaces an earlier one. -/
def lastKeyed (entries : List (String × String × Extern)) (key : String × String) :
    Option Extern :=
  (entries.reverse.find? fun entry => (entry.1, entry.2.1) = key).map fun entry => entry.2.2

namespace Capability

variable {module name : String} {value : Extern} {entries : List (String × String × Extern)}

theorem lookup_listed :
    (listed module entries).lookup name =
      (entries.find? fun entry => (entry.1, entry.2.1) = (module, name)).map
        fun entry => entry.2.2 := by
  induction entries with
  | nil => rfl
  | cons entry rest ih =>
      obtain ⟨owner, inner, value⟩ := entry
      rw [List.find?_cons]
      by_cases own : owner = module
      · have kept : listed module ((owner, inner, value) :: rest) =
            (inner, value) :: listed module rest := by simp [listed, own]
        rw [kept, List.lookup_cons]
        by_cases same : name = inner
        · simp [own, same]
        · rw [beq_false_of_ne same]
          simpa [own, Ne.symm same] using ih
      · have dropped : listed module ((owner, inner, value) :: rest) = listed module rest := by
          simp [listed, own]
        rw [dropped]
        simpa [own] using ih

theorem lastInserted_listed :
    lastInserted (listed module entries) name = lastKeyed entries (module, name) := by
  have backwards : (listed module entries).reverse = listed module entries.reverse := by
    rw [listed, listed, List.filter_reverse, List.map_reverse]
  rw [lastInserted, backwards, lookup_listed, lastKeyed]

theorem listed_eq_nil_iff : listed module entries = [] ↔ ∀ entry ∈ entries, entry.1 ≠ module := by
  simp [listed]

theorem mem_listed_iff :
    (name, value) ∈ listed module entries ↔ (module, name, value) ∈ entries := by
  simp [listed]

theorem ofEntries?_eq_none_iff :
    ofEntries? module entries = none ↔ ∀ entry ∈ entries, entry.1 ≠ module := by
  rw [ofEntries?_eq, ← listed_eq_nil_iff]
  simp

theorem eq_of_ofEntries? {found : Capability} (taken : ofEntries? module entries = some found) :
    found = (new module).insertAll (listed module entries) := by
  rw [ofEntries?_eq] at taken
  split at taken
  · cases taken
  · exact (Option.some.inj taken).symm

theorem lastKeyed_eq_some_iff_mem
    (distinct : (entries.map fun entry => (entry.1, entry.2.1)).Nodup) :
    lastKeyed entries (module, name) = some value ↔ (module, name, value) ∈ entries := by
  have names := listed_distinct distinct module
  rw [← lastInserted_listed, lastInserted, ← lookup_eq_of_perm (List.reverse_perm _).symm names,
    lookup_eq_some_iff_mem names, mem_listed_iff]

end Capability

structure Capability.Holds (capability : Capability) (values : String → Option Extern) : Prop where
  distinct : (capability.exports.map Prod.fst).Nodup
  exports : ∀ name value, (name, value) ∈ capability.exports ↔ values name = some value

namespace Capability.Holds

variable {capability : Capability} {values : String → Option Extern}

theorem insertAll (module : String) (inserted : List (String × Extern)) :
    ((new module).insertAll inserted).Holds (lastInserted inserted) :=
  ⟨nodup_exports module inserted, fun _ _ => mem_exports_iff⟩

theorem ofEntries? {module : String} {entries : List (String × String × Extern)}
    {found : Capability} (taken : Capability.ofEntries? module entries = some found) :
    found.Holds fun name => lastKeyed entries (module, name) := by
  have holds := insertAll module (listed module entries)
  rw [← eq_of_ofEntries? taken] at holds
  exact ⟨holds.distinct, fun name value => by rw [holds.exports, lastInserted_listed]⟩

theorem get?_putAll (holds : capability.Holds values) (ns : Namespace)
    (module owner name : String) :
    (ns.putAll module capability.exports).get? owner name =
      if owner = module then (values name).or (ns.get? owner name) else ns.get? owner name := by
  by_cases own : owner = module
  · subst own
    rw [if_pos rfl]
    cases found : values name with
    | some value =>
        exact ns.get?_putAll_of_mem holds.distinct ((holds.exports name value).mpr found)
    | none =>
        have others : ∀ e ∈ capability.exports, (owner, name) ≠ (owner, e.1) := by
          rintro ⟨_, value⟩ member same
          cases same
          rw [holds.exports, found] at member
          cases member
        exact ns.get?_putAll_of_ne others
  · rw [if_neg own]
    have others : ∀ e ∈ capability.exports, (owner, name) ≠ (module, e.1) :=
      fun _ _ same => own (congrArg Prod.fst same)
    exact ns.get?_putAll_of_ne others

end Capability.Holds

namespace Linker

variable {capability : Capability} {linker : Linker}

theorem defineHost_of_open (distinct : (capability.exports.map Prod.fst).Nodup)
    (bindable : ∀ e ∈ capability.exports, linker.store.Bindable e.2)
    (isOpen : linker.registry.containsNamespace capability.module = false ∨
      linker.shadowing = .allow) :
    ∃ after, defineHost capability linker = .ok () after ∧
      after.registry = linker.registry.putAll capability.module capability.exports ∧
      after.store = linker.store ∧ after.shadowing = linker.shadowing := by
  have eachOpen : ∀ e ∈ capability.exports, linker.Open capability.module e.1 := by
    intro e _ rejects
    rcases isOpen with free | allows
    · -- A module name without bindings has none under this name.
      rw [← Bool.not_eq_true]
      intro taken
      have bound := (Namespace.containsNamespace_iff capability.module).mpr ⟨e.1, taken⟩
      rw [free] at bound
      cases bound
    · rw [allows] at rejects
      cases rejects
  obtain ⟨trace, registered⟩ := defineExports_of_bindable bindable distinct eachOpen
  exact ⟨_, registered, rfl, rfl, rfl⟩

/-- The first name of a capability is looked at first, so a capability of which it is taken is
refused with nothing done. -/
theorem defineHost_of_taken {first : String × Extern} {others : List (String × Extern)}
    (starts : capability.exports = first :: others) (bindable : linker.store.Bindable first.2)
    (rejects : linker.shadowing = .reject)
    (taken : linker.registry.contains capability.module first.1 = true) :
    defineHost capability linker =
      .error (.duplicateDefinition capability.module first.1) linker := by
  have refused := define_of_taken bindable rejects taken
  rw [defineHost, starts]
  simp only [defineExports, bind, EStateM.bind, refused]

/-- Once a capability has been registered it is refused for good, unless redefinitions are
allowed. -/
theorem defineHost_again {first : String × Extern} {others : List (String × Extern)}
    {after : Linker} (starts : capability.exports = first :: others)
    (bindable : ∀ e ∈ capability.exports, after.store.Bindable e.2)
    (bound : after.registry.contains capability.module first.1 = true)
    (operations : List Operation) (rejects : (after.run operations).shadowing = .reject) :
    defineHost capability (after.run operations) =
      .error (.duplicateDefinition capability.module first.1) (after.run operations) := by
  have ofFirst : after.store.Bindable first.2 := bindable first (starts ▸ List.mem_cons_self)
  exact defineHost_of_taken starts (ofFirst.of_id (run_extends after operations).id) rejects
    (run_contains bound operations)

end Linker

/-- However values were inserted into a new capability, it has the last value of each name, and
each name once. Where all the values may be bound and nothing has its module name, or redefinitions
are allowed, it is registered: then exactly its names are bound under the module name, to these
values, and every other key is as before. Whatever is done after that, registering it again while
redefinitions are refused fails at its first name and does nothing. A capability that is taken out
of keyed values has the values of its module name, and there is none if there are no such values. -/
theorem capability_registers_last_values (module : String) (inserted : List (String × Extern)) :
    let capability := (Capability.new module).insertAll inserted
    let last := lastInserted inserted
    (capability.module = module ∧ capability.Holds last) ∧
    (∀ linker : Linker, (∀ e ∈ inserted, linker.store.Bindable e.2) →
      (linker.registry.containsNamespace module = false ∨ linker.shadowing = .allow) →
      ∃ after, Linker.defineHost capability linker = .ok () after ∧
        after.store = linker.store ∧ after.shadowing = linker.shadowing ∧
        (∀ owner name, after.get? owner name =
          if owner = module then (last name).or (linker.get? owner name)
          else linker.get? owner name) ∧
        ∀ (operations : List Linker.Operation) (first : String × Extern),
          (after.run operations).shadowing = .reject → inserted.head? = some first →
          Linker.defineHost capability (after.run operations) =
            .error (.duplicateDefinition module first.1) (after.run operations)) ∧
    ∀ entries : List (String × String × Extern),
      (Capability.ofEntries? module entries = none ↔ ∀ entry ∈ entries, entry.1 ≠ module) ∧
      ∀ found, Capability.ofEntries? module entries = some found →
        found.module = module ∧ found.Holds (fun name => lastKeyed entries (module, name)) ∧
        ((entries.map fun entry => (entry.1, entry.2.1)).Nodup → ∀ name value,
          (name, value) ∈ found.exports ↔ (module, name, value) ∈ entries) := by
  intro capability last
  have holds : capability.Holds last := .insertAll module inserted
  have owner : capability.module = module := Capability.module_insertAll _ inserted
  refine ⟨⟨owner, holds⟩, ?_, ?_⟩
  · intro linker bindable isOpen
    have ofExports : ∀ e ∈ capability.exports, linker.store.Bindable e.2 :=
      fun e member => bindable e (Capability.mem_inserted member)
    obtain ⟨after, registered, registry, store, shadowing⟩ :=
      Linker.defineHost_of_open holds.distinct ofExports (owner.symm ▸ isOpen)
    rw [owner] at registry
    refine ⟨after, registered, store, shadowing, ?_, ?_⟩
    · intro other name
      rw [Linker.get?, registry]
      exact holds.get?_putAll linker.registry module other name
    · intro operations first rejects starts
      obtain ⟨rest, rfl⟩ := List.head?_eq_some_iff.mp starts
      obtain ⟨value, others, exports⟩ := Capability.exports_cons module first rest
      have bound : after.registry.contains capability.module first.1 = true := by
        rw [registry, owner, Namespace.contains_putAll_iff]
        exact Or.inr (by simp [capability, exports])
      have bindableAfter : ∀ e ∈ capability.exports, after.store.Bindable e.2 :=
        store.symm ▸ ofExports
      have refused := Linker.defineHost_again exports bindableAfter bound operations rejects
      rw [owner] at refused
      exact refused
  · intro entries
    refine ⟨Capability.ofEntries?_eq_none_iff, ?_⟩
    intro found taken
    have entered := Capability.Holds.ofEntries? taken
    refine ⟨?_, entered, ?_⟩
    · rw [Capability.eq_of_ofEntries? taken]
      exact Capability.module_insertAll _ _
    · intro distinct name value
      rw [entered.exports, Capability.lastKeyed_eq_some_iff_mem distinct]

theorem capability_registers_second_value :
    let func : Extern := ⟨0, .func ⟨0, ⟨[], []⟩⟩⟩
    let second : Extern := ⟨0, .func ⟨1, ⟨[], []⟩⟩⟩
    let third : Extern := ⟨0, .func ⟨2, ⟨[], []⟩⟩⟩
    let linker := (Linker.new { id := 0 }).run
      [.onStore (.newFunc ⟨⟨[], []⟩, .host "f" (.values [])⟩),
        .onStore (.newFunc ⟨⟨[], []⟩, .host "g" (.values [])⟩),
        .onStore (.newFunc ⟨⟨[], []⟩, .host "h" (.values [])⟩), .define "env" "a" func]
    let inserted := [("a", func), ("b", second), ("a", third)]
    let capability := (Capability.new "host").insertAll inserted
    let keyed := [("env", "b", func), ("host", "a", func), ("host", "a", second)]
    (∀ e ∈ inserted, linker.store.Bindable e.2) ∧
      linker.registry.containsNamespace "host" = false ∧
      ("a", third) ∈ capability.exports ∧ ("a", func) ∉ capability.exports ∧
      (∃ after, Linker.defineHost capability linker = .ok () after ∧
        after.get? "host" "a" = some third ∧ after.get? "host" "b" = some second ∧
        after.get? "env" "a" = some func ∧ after.get? "env" "b" = none ∧
        let later := after.run
          [.allowShadowing true, .define "host" "a" func, .allowShadowing false]
        Linker.defineHost capability later = .error (.duplicateDefinition "host" "a") later) ∧
      Capability.ofEntries? "host" [("env", "b", func)] = none ∧
      ∃ found, Capability.ofEntries? "host" keyed = some found ∧ ("a", second) ∈ found.exports ∧
        ("a", func) ∉ found.exports := by
  intro func second third linker inserted capability keyed
  obtain ⟨⟨_, holds⟩, registered, taken⟩ := capability_registers_last_values "host" inserted
  have bindable : ∀ e ∈ inserted, linker.store.Bindable e.2 := by
    intro e member
    rw [Store.bindable_iff]
    rcases List.mem_cons.mp member with rfl | member
    · exact ⟨rfl, nofun⟩
    · rcases List.mem_pair.mp member with rfl | rfl
      · exact ⟨rfl, nofun⟩
      · exact ⟨rfl, nofun⟩
  have free : linker.registry.containsNamespace "host" = false := by decide
  refine ⟨bindable, free, (holds.exports _ _).mpr rfl, ?_, ?_, ?_, ?_⟩
  · rw [holds.exports]
    decide
  · obtain ⟨after, success, _, _, lookups, again⟩ := registered linker bindable (Or.inl free)
    refine ⟨after, success, lookups "host" "a", lookups "host" "b", lookups "env" "a",
      lookups "env" "b", ?_⟩
    exact again [.allowShadowing true, .define "host" "a" func, .allowShadowing false]
      ("a", func) rfl rfl
  · exact (taken [("env", "b", func)]).1.mpr (by decide)
  · obtain ⟨_, each⟩ := taken keyed
    obtain ⟨found, isFound⟩ := Option.ne_none_iff_exists'.mp
      (show Capability.ofEntries? "host" keyed ≠ none by decide)
    obtain ⟨_, entered, _⟩ := each found isFound
    refine ⟨found, isFound, (entered.exports _ _).mpr rfl, ?_⟩
    rw [entered.exports]
    decide

end Linkage
