import Linkage.Namespace

/-!
The registry as a table from keys to values. What a lookup finds is among the listed bindings, a
new binding adds its own entry only, and binding several names of one module changes the keys of
these names and no others.
-/

namespace Linkage

section
variable {α : Type}

theorem mem_of_lookup {name : String} {value : α} {named : List (String × α)}
    (found : named.lookup name = some value) : (name, value) ∈ named := by
  obtain ⟨before, after, equal, _⟩ := List.lookup_eq_some_iff.mp found
  rw [equal]
  exact List.mem_append_right before List.mem_cons_self

theorem mem_putNamed {name : String} {value : α} {named : List (String × α)}
    {entry : String × α} (member : entry ∈ putNamed name value named) :
    entry = (name, value) ∨ entry ∈ named := by
  induction named with
  | nil => exact Or.inl (List.mem_singleton.mp member)
  | cons first rest ih =>
      rw [putNamed] at member
      split at member
      · rcases List.mem_cons.mp member with new | old
        · exact Or.inl new
        · exact Or.inr (List.mem_cons_of_mem first old)
      · rcases List.mem_cons.mp member with same | later
        · exact Or.inr (same ▸ List.mem_cons_self)
        · rcases ih later with new | old
          · exact Or.inl new
          · exact Or.inr (List.mem_cons_of_mem first old)

end

namespace Namespace

theorem mem_bindings_iff {ns : Namespace} {module name : String} {value : Extern} :
    (module, name, value) ∈ ns.bindings ↔
      ∃ named, (module, named) ∈ ns.groups ∧ (name, value) ∈ named := by
  simp only [bindings, List.mem_flatMap, List.mem_map]
  constructor
  · rintro ⟨⟨owner, named⟩, inGroups, binding, inNamed, equal⟩
    cases equal
    exact ⟨named, inGroups, inNamed⟩
  · rintro ⟨named, inGroups, inNamed⟩
    exact ⟨(module, named), inGroups, (name, value), inNamed, rfl⟩

theorem mem_bindings_of_mem_group {ns : Namespace} {module name : String} {value : Extern}
    (member : (name, value) ∈ ns.group module) : (module, name, value) ∈ ns.bindings := by
  unfold group at member
  cases found : ns.groups.lookup module with
  | none =>
      rw [found] at member
      cases member
  | some named =>
      rw [found] at member
      exact mem_bindings_iff.mpr ⟨named, mem_of_lookup found, member⟩

theorem mem_bindings_of_get? {ns : Namespace} {module name : String} {value : Extern}
    (found : ns.get? module name = some value) : (module, name, value) ∈ ns.bindings :=
  mem_bindings_of_mem_group (mem_of_lookup found)

theorem mem_bindings_put {ns : Namespace} {module name : String} {value : Extern}
    {binding : String × String × Extern} (member : binding ∈ (ns.put module name value).bindings) :
    binding = (module, name, value) ∨ binding ∈ ns.bindings := by
  obtain ⟨owner, other, found⟩ := binding
  obtain ⟨named, inGroups, inNamed⟩ := mem_bindings_iff.mp member
  -- Either the group of `module` was written, or another one is read as it was.
  rcases mem_putNamed inGroups with changed | untouched
  · cases changed
    rcases mem_putNamed inNamed with new | old
    · cases new
      exact Or.inl rfl
    · exact Or.inr (mem_bindings_of_mem_group old)
  · exact Or.inr (mem_bindings_iff.mpr ⟨named, untouched, inNamed⟩)

theorem contains_put_of_ne (ns : Namespace) {module name other : String} (differs : other ≠ name)
    (value : Extern) : (ns.put module name value).contains module other =
      ns.contains module other := by
  have keys : (module, other) ≠ (module, name) := fun equal => differs (congrArg Prod.snd equal)
  rw [contains, contains, get?_put_of_ne ns keys]

def putAll (ns : Namespace) (module : String) : List (String × Extern) → Namespace
  | [] => ns
  | (name, value) :: rest => (ns.put module name value).putAll module rest

theorem get?_putAll_of_ne (ns : Namespace) {module : String} {exports : List (String × Extern)}
    {key : String × String} (others : ∀ e ∈ exports, key ≠ (module, e.1)) :
    (ns.putAll module exports).get? key.1 key.2 = ns.get? key.1 key.2 := by
  induction exports generalizing ns with
  | nil => rfl
  | cons first rest ih =>
      obtain ⟨name, value⟩ := first
      have otherFirst : key ≠ (module, name) := others (name, value) List.mem_cons_self
      rw [putAll, ih _ fun e member => others e (List.mem_cons_of_mem _ member)]
      exact get?_put_of_ne ns otherFirst value

theorem contains_putAll_iff (ns : Namespace) {module name : String}
    {exports : List (String × Extern)} :
    (ns.putAll module exports).contains module name = true ↔
      (∃ value, ns.get? module name = some value) ∨ name ∈ exports.map Prod.fst := by
  induction exports generalizing ns with
  | nil => simp [putAll, contains, Option.isSome_iff_exists]
  | cons first rest ih =>
      obtain ⟨other, value⟩ := first
      rw [putAll, ih]
      by_cases same : name = other
      · subst same
        simp [get?_put_self]
      · have keys : (module, name) ≠ (module, other) := fun equal => same (congrArg Prod.snd equal)
        simp [get?_put_of_ne ns keys, same]

theorem get?_putAll_of_mem (ns : Namespace) {module name : String} {value : Extern}
    {exports : List (String × Extern)} (distinct : (exports.map Prod.fst).Nodup)
    (member : (name, value) ∈ exports) :
    (ns.putAll module exports).get? module name = some value := by
  induction exports generalizing ns with
  | nil => cases member
  | cons first rest ih =>
      rw [List.map_cons, List.nodup_cons] at distinct
      rcases List.mem_cons.mp member with same | later
      · subst same
        have others : ∀ e ∈ rest, (module, name) ≠ (module, e.1) := by
          intro e inRest equal
          have taken : name = e.1 := congrArg Prod.snd equal
          exact distinct.1 (List.mem_map.mpr ⟨e, inRest, taken.symm⟩)
        have kept := get?_putAll_of_ne (ns.put module name value) others
        exact kept.trans (get?_put_self ns module name value)
      · exact ih _ distinct.2 later

end Namespace

end Linkage
