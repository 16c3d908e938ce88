import Mathlib.Data.Finset.Card
import Mathlib.Data.List.Forall2
import Mathlib.Data.List.Nodup
import Linkage.Namespace.Cursor
import Linkage.Proofs.Registry

/-!
The registry against a finite map from keys to values. A history of insertions, each with its own
answer to a second binding, leaves every key with the value of the last insertion of it that was
accepted. All that can be asked of the registry agrees with that, and an iteration meets each bound
key once, in whatever order the modules and the names of a module are stored.
-/

namespace Linkage

section
variable {α : Type} {name : String} {value : α} {named : List (String × α)}

theorem nodup_putNamed (distinct : (named.map Prod.fst).Nodup) :
    ((putNamed name value named).map Prod.fst).Nodup := by
  induction named with
  | nil => simp [putNamed]
  | cons first rest ih =>
      rw [List.map_cons, List.nodup_cons] at distinct
      rw [putNamed]
      split
      · next same => simpa [← same] using distinct
      · next other =>
        rw [List.map_cons, List.nodup_cons]
        constructor
        · intro again
          obtain ⟨entry, member, sameName⟩ := List.mem_map.mp again
          rcases mem_putNamed member with new | old
          · rw [new] at sameName
            exact other sameName.symm
          · exact distinct.1 (sameName ▸ List.mem_map_of_mem old)
        · exact ih distinct.2

theorem lookup_of_mem (distinct : (named.map Prod.fst).Nodup) (member : (name, value) ∈ named) :
    named.lookup name = some value := by
  induction named with
  | nil => cases member
  | cons first rest ih =>
      rw [List.map_cons, List.nodup_cons] at distinct
      rcases List.mem_cons.mp member with same | later
      · rw [← same, List.lookup_cons_self]
      · have differs : name ≠ first.1 := by
          rintro rfl
          exact distinct.1 (List.mem_map.mpr ⟨_, later, rfl⟩)
        rw [List.lookup_cons, beq_false_of_ne differs]
        exact ih distinct.2 later

theorem lookup_eq_some_iff_mem (distinct : (named.map Prod.fst).Nodup) :
    named.lookup name = some value ↔ (name, value) ∈ named :=
  ⟨mem_of_lookup, lookup_of_mem distinct⟩

theorem lookup_eq_of_perm {others : List (String × α)} (perm : named.Perm others)
    (distinct : (named.map Prod.fst).Nodup) : named.lookup name = others.lookup name := by
  have othersDistinct : (others.map Prod.fst).Nodup := (perm.map Prod.fst).nodup distinct
  apply Option.ext
  intro value
  rw [lookup_eq_some_iff_mem distinct, lookup_eq_some_iff_mem othersDistinct, perm.mem_iff]

theorem lookup_eq_none_iff_not_mem : named.lookup name = none ↔ name ∉ named.map Prod.fst := by
  rw [List.lookup_eq_none_iff]
  constructor
  · intro differs member
    obtain ⟨entry, found, rfl⟩ := List.mem_map.mp member
    simpa using differs entry found
  · intro absent entry member
    have differs : name ≠ entry.1 := fun same => absent (List.mem_map.mpr ⟨entry, member, same.symm⟩)
    simpa using differs

/-- The entries of a list with distinct names, put into the order of the names that it may have. -/
theorem perm_in_order {names : List String} (known : ∀ entry ∈ named, entry.1 ∈ names)
    (ordered : names.Nodup) (distinct : (named.map Prod.fst).Nodup) :
    named.Perm (names.flatMap fun name => (named.lookup name).toList.map (name, ·)) := by
  rw [List.perm_ext_iff_of_nodup distinct.of_map]
  · rintro ⟨name, value⟩
    simp only [List.mem_flatMap, List.mem_map, Option.mem_toList, Prod.mk.injEq]
    constructor
    · intro member
      exact ⟨name, known _ member, value, lookup_of_mem distinct member, rfl, rfl⟩
    · rintro ⟨_, _, _, found, rfl, rfl⟩
      exact mem_of_lookup found
  · rw [List.nodup_flatMap]
    constructor
    · intro name _
      cases named.lookup name <;> simp
    · refine ordered.imp fun differs => ?_
      intro entry first second
      simp only [List.mem_map] at first second
      obtain ⟨_, _, rfl⟩ := first
      obtain ⟨_, _, same⟩ := second
      exact differs (congrArg Prod.fst same).symm

end

namespace Namespace

structure WellFormed (ns : Namespace) : Prop where
  modules : (ns.groups.map Prod.fst).Nodup
  names : ∀ group ∈ ns.groups, (group.2.map Prod.fst).Nodup

section
variable {ns : Namespace}

theorem wellFormed_empty : empty.WellFormed :=
  ⟨List.nodup_nil, by simp [empty]⟩

theorem WellFormed.group (formed : ns.WellFormed) (module : String) :
    ((ns.group module).map Prod.fst).Nodup := by
  unfold Namespace.group
  cases found : ns.groups.lookup module with
  | none => exact List.nodup_nil
  | some named => exact formed.names (module, named) (mem_of_lookup found)

theorem WellFormed.put (formed : ns.WellFormed) (module name : String) (value : Extern) :
    (ns.put module name value).WellFormed := by
  constructor
  · exact nodup_putNamed formed.modules
  · intro group member
    rcases mem_putNamed member with written | untouched
    · rw [written]
      exact nodup_putNamed (formed.group module)
    · exact formed.names group untouched

theorem WellFormed.putAll (formed : ns.WellFormed) (module : String)
    (entries : List (String × Extern)) : (ns.putAll module entries).WellFormed := by
  induction entries generalizing ns with
  | nil => exact formed
  | cons first rest ih => exact ih (formed.put module first.1 first.2)

theorem WellFormed.mem_bindings_iff (formed : ns.WellFormed) {module name : String}
    {value : Extern} :
    (module, name, value) ∈ ns.bindings ↔ ns.get? module name = some value := by
  constructor
  · intro member
    obtain ⟨named, inGroups, inNamed⟩ := Namespace.mem_bindings_iff.mp member
    have found : ns.group module = named := by
      rw [Namespace.group, lookup_of_mem formed.modules inGroups, Option.getD_some]
    rw [get?, found]
    exact lookup_of_mem (formed.names _ inGroups) inNamed
  · exact mem_bindings_of_get?

theorem WellFormed.nodup_keys (formed : ns.WellFormed) : ns.keys.Nodup := by
  have keys : ns.keys = ns.groups.flatMap fun group =>
      (group.2.map Prod.fst).map fun name => (group.1, name) := by
    simp [Namespace.keys, bindings, List.map_flatMap, Function.comp_def]
  rw [keys, List.nodup_flatMap]
  constructor
  · intro group member
    exact (formed.names group member).map fun _ _ same => congrArg Prod.snd same
  · -- The keys of two modules differ in their first halves.
    apply List.Pairwise.imp _ (List.pairwise_map.mp formed.modules)
    intro one other differs key inOne inOther
    obtain ⟨_, _, rfl⟩ := List.mem_map.mp inOne
    obtain ⟨_, _, same⟩ := List.mem_map.mp inOther
    exact differs (congrArg Prod.fst same).symm

theorem mem_keys_iff {key : String × String} :
    key ∈ ns.keys ↔ ∃ value, (key.1, key.2, value) ∈ ns.bindings := by
  simp only [keys, List.mem_map]
  constructor
  · rintro ⟨binding, member, rfl⟩
    exact ⟨binding.2.2, member⟩
  · rintro ⟨value, member⟩
    exact ⟨_, member, rfl⟩

theorem WellFormed.mem_keys_iff (formed : ns.WellFormed) {key : String × String} :
    key ∈ ns.keys ↔ (ns.get? key.1 key.2).isSome = true := by
  rw [Namespace.mem_keys_iff, Option.isSome_iff_exists]
  exact exists_congr fun _ => formed.mem_bindings_iff

theorem WellFormed.perm_keys_iff {other : Namespace} (formed : ns.WellFormed)
    (otherFormed : other.WellFormed) :
    ns.keys.Perm other.keys ↔
      ∀ module name, ns.contains module name = other.contains module name := by
  rw [List.perm_ext_iff_of_nodup formed.nodup_keys otherFormed.nodup_keys, Prod.forall]
  simp only [formed.mem_keys_iff, otherFormed.mem_keys_iff]
  exact forall₂_congr fun _ _ => Bool.eq_iff_iff.symm

theorem WellFormed.perm_keys {other : Namespace} (formed : ns.WellFormed)
    (otherFormed : other.WellFormed)
    (alike : ∀ module name, ns.get? module name = other.get? module name) :
    ns.keys.Perm other.keys := by
  rw [formed.perm_keys_iff otherFormed]
  intro module name
  rw [contains, contains, alike]

theorem WellFormed.size_eq {other : Namespace} (formed : ns.WellFormed)
    (otherFormed : other.WellFormed)
    (alike : ∀ module name, ns.get? module name = other.get? module name) :
    ns.size = other.size := by
  simpa [keys, size] using (formed.perm_keys otherFormed alike).length_eq

theorem WellFormed.size_eq_card (formed : ns.WellFormed) :
    ∃ bound : Finset (String × String),
      (∀ key, key ∈ bound ↔ (ns.get? key.1 key.2).isSome = true) ∧ ns.size = bound.card := by
  refine ⟨ns.keys.toFinset, ?_, ?_⟩
  · intro key
    rw [List.mem_toFinset, formed.mem_keys_iff]
  · rw [List.toFinset_card_of_nodup formed.nodup_keys, keys, List.length_map, size]

theorem WellFormed.isEmpty_iff (formed : ns.WellFormed) :
    ns.isEmpty = true ↔ ∀ module name, ns.get? module name = none := by
  rw [isEmpty, size, beq_iff_eq, List.length_eq_zero_iff, List.eq_nil_iff_forall_not_mem]
  constructor
  · intro nothing module name
    rw [Option.eq_none_iff_forall_ne_some]
    exact fun value found => nothing _ (formed.mem_bindings_iff.mpr found)
  · rintro unbound ⟨module, name, value⟩ member
    rw [formed.mem_bindings_iff, unbound] at member
    cases member

theorem containsNamespace_iff (module : String) :
    ns.containsNamespace module = true ↔ ∃ name, (ns.get? module name).isSome = true := by
  rw [containsNamespace]
  unfold get?
  cases ns.group module with
  | nil => simp
  | cons first rest =>
      simp only [List.isEmpty_cons, Bool.not_false, true_iff]
      exact ⟨first.1, by rw [List.lookup_cons_self]; rfl⟩

end

/-- The modules in any order, and the bindings of each module in any order of its own. -/
def Rearranges (order groups : List ModuleGroup) : Prop :=
  ∃ modules, modules.Perm groups ∧
    List.Forall₂ (fun walked group => walked.1 = group.1 ∧ walked.2.Perm group.2) order modules

theorem Rearranges.perm_bindings {order groups : List ModuleGroup}
    (arranged : Rearranges order groups) :
    (bindings ⟨order⟩).Perm (bindings ⟨groups⟩) := by
  obtain ⟨modules, permuted, within⟩ := arranged
  have outer : (bindings ⟨modules⟩).Perm (bindings ⟨groups⟩) := permuted.flatMap_right _
  apply List.Perm.trans _ outer
  clear permuted outer
  induction within with
  | nil => exact List.Perm.refl _
  | @cons walked group order modules same _ ih =>
      obtain ⟨name, names⟩ := same
      have first := names.map fun binding => (group.1, binding.1, binding.2)
      simpa [bindings, name] using first.append ih

theorem WellFormed.yields_once {ns : Namespace} (formed : ns.WellFormed)
    {order : List ModuleGroup} (arranged : Rearranges order ns.groups) :
    ∃ yielded, (∀ bindings, (Cursor.start order).Yields bindings ↔ bindings = yielded) ∧
      (yielded.map fun binding => (binding.1, binding.2.1)).Nodup ∧
      ∀ module name value,
        (module, name, value) ∈ yielded ↔ ns.get? module name = some value := by
  have permuted := arranged.perm_bindings
  refine ⟨bindings ⟨order⟩, fun _ => Cursor.yields_iff, ?_, ?_⟩
  · exact (permuted.map _).nodup_iff.mpr formed.nodup_keys
  · intro module name value
    rw [permuted.mem_iff]
    exact formed.mem_bindings_iff

end Namespace

structure Insertion where
  module : String
  name : String
  value : Extern
  shadowing : Shadowing
  deriving DecidableEq, Repr

def Insertion.key (insertion : Insertion) : String × String :=
  (insertion.module, insertion.name)

def lastValue (insertions : List Insertion) (key : String × String) : Option Extern :=
  (insertions.filter fun insertion => insertion.key = key).getLast?.map Insertion.value

theorem lastValue_cons (first : Insertion) (rest : List Insertion) (key : String × String) :
    lastValue (first :: rest) key =
      (lastValue rest key).or (if first.key = key then some first.value else none) := by
  unfold lastValue
  by_cases same : first.key = key
  · rw [List.filter_cons_of_pos (by simpa using same), List.getLast?_cons, if_pos same]
    cases (rest.filter fun insertion => insertion.key = key).getLast? <;> rfl
  · rw [List.filter_cons_of_neg (by simpa using same), if_neg same, Option.or_none]

namespace Namespace

def attempt (ns : Namespace) (insertion : Insertion) :
    Except LinkError (Option Extern × Namespace) :=
  ns.insert insertion.module insertion.name insertion.value insertion.shadowing

/-- What is left of a registry after a history. A refused insertion is passed over. -/
def replay (ns : Namespace) : List Insertion → Namespace
  | [] => ns
  | insertion :: rest =>
      match ns.attempt insertion with
      | .ok (_, after) => after.replay rest
      | .error _ => ns.replay rest

def accepted (ns : Namespace) : List Insertion → List Insertion
  | [] => []
  | insertion :: rest =>
      match ns.attempt insertion with
      | .ok (_, after) => insertion :: after.accepted rest
      | .error _ => ns.accepted rest

theorem attempt_cases (ns : Namespace) (insertion : Insertion) :
    (insertion.shadowing = .reject ∧ ns.contains insertion.module insertion.name = true ∧
      ns.attempt insertion = .error (.duplicateDefinition insertion.module insertion.name)) ∨
    (¬ (insertion.shadowing = .reject ∧ ns.contains insertion.module insertion.name = true) ∧
      ns.attempt insertion = .ok (ns.get? insertion.module insertion.name,
        ns.put insertion.module insertion.name insertion.value)) := by
  unfold attempt insert
  by_cases refused :
      insertion.shadowing = .reject ∧ ns.contains insertion.module insertion.name = true
  · exact Or.inl ⟨refused.1, refused.2, if_pos refused⟩
  · exact Or.inr ⟨refused, if_neg refused⟩

theorem replay_append (ns : Namespace) (history later : List Insertion) :
    ns.replay (history ++ later) = (ns.replay history).replay later := by
  induction history generalizing ns with
  | nil => rfl
  | cons insertion rest ih =>
      rw [List.cons_append, replay, replay]
      cases ns.attempt insertion with
      | ok result => exact ih result.2
      | error error => exact ih ns

theorem WellFormed.replay {ns : Namespace} (formed : ns.WellFormed) (history : List Insertion) :
    (ns.replay history).WellFormed := by
  induction history generalizing ns with
  | nil => exact formed
  | cons insertion rest ih =>
      rw [Namespace.replay]
      rcases attempt_cases ns insertion with ⟨_, _, refused⟩ | ⟨_, taken⟩
      · rw [refused]
        exact ih formed
      · rw [taken]
        exact ih (formed.put _ _ _)

theorem get?_put (ns : Namespace) (insertion : Insertion) (key : String × String) :
    (ns.put insertion.module insertion.name insertion.value).get? key.1 key.2 =
      (if insertion.key = key then some insertion.value else none).or (ns.get? key.1 key.2) := by
  by_cases same : insertion.key = key
  · rw [if_pos same, ← same]
    exact get?_put_self ns _ _ _
  · rw [if_neg same, Option.none_or]
    exact get?_put_of_ne ns (Ne.symm same) _

theorem get?_replay (ns : Namespace) (history : List Insertion) (key : String × String) :
    (ns.replay history).get? key.1 key.2 =
      (lastValue (ns.accepted history) key).or (ns.get? key.1 key.2) := by
  induction history generalizing ns with
  | nil => rfl
  | cons insertion rest ih =>
      rw [replay, accepted]
      rcases attempt_cases ns insertion with ⟨_, _, refused⟩ | ⟨_, taken⟩
      · rw [refused]
        exact ih ns
      · rw [taken]
        calc ((ns.put _ _ _).replay rest).get? key.1 key.2
          _ = (lastValue _ key).or ((ns.put _ _ _).get? key.1 key.2) := ih _
          _ = (lastValue _ key).or ((if insertion.key = key then some insertion.value else none).or
                (ns.get? key.1 key.2)) := by rw [get?_put]
          _ = (lastValue (insertion :: _) key).or (ns.get? key.1 key.2) := by
                rw [lastValue_cons, Option.or_assoc]

theorem get?_replay_empty (history : List Insertion) (module name : String) :
    (empty.replay history).get? module name =
      lastValue (empty.accepted history) (module, name) := by
  rw [get?_replay empty history (module, name)]
  exact Option.or_none

/-- After any history of insertions, the registry is the finite map that gives each key the value
of the last insertion of exactly that key that was accepted. -/
theorem replay_refines_map (history : List Insertion) (order : List ModuleGroup)
    (arranged : Rearranges order (empty.replay history).groups) :
    let ns := empty.replay history
    let value := lastValue (empty.accepted history)
    (∀ module name, ns.get? module name = value (module, name)) ∧
    (∀ insertion,
      match ns.attempt insertion with
      | .error error =>
          insertion.shadowing = .reject ∧ (value insertion.key).isSome = true ∧
          error = .duplicateDefinition insertion.module insertion.name ∧
          empty.replay (history ++ [insertion]) = ns
      | .ok (previous, after) =>
          ¬ (insertion.shadowing = .reject ∧ (value insertion.key).isSome = true) ∧
          previous = value insertion.key ∧ empty.replay (history ++ [insertion]) = after) ∧
    (∀ module name, ns.contains module name = (ns.get? module name).isSome) ∧
    (∀ module, ns.containsNamespace module = true ↔
      ∃ name, (ns.get? module name).isSome = true) ∧
    (∃ yielded, (∀ bindings, (Cursor.start order).Yields bindings ↔ bindings = yielded) ∧
      (yielded.map fun binding => (binding.1, binding.2.1)).Nodup ∧
      ∀ module name found,
        (module, name, found) ∈ yielded ↔ ns.get? module name = some found) ∧
    (∃ bound : Finset (String × String),
      (∀ key, key ∈ bound ↔ (ns.get? key.1 key.2).isSome = true) ∧ ns.size = bound.card) ∧
    (ns.isEmpty = true ↔ ∀ module name, ns.get? module name = none) := by
  intro ns value
  have holds : ∀ module name, ns.get? module name = value (module, name) :=
    get?_replay_empty history
  have formed : ns.WellFormed := wellFormed_empty.replay history
  refine ⟨holds, ?_, fun _ _ => rfl, containsNamespace_iff, formed.yields_once arranged,
    formed.size_eq_card, formed.isEmpty_iff⟩
  intro insertion
  have before : ns.get? insertion.module insertion.name = value insertion.key :=
    holds insertion.module insertion.name
  have step : empty.replay (history ++ [insertion]) = ns.replay [insertion] :=
    replay_append empty history [insertion]
  rcases attempt_cases ns insertion with ⟨rejects, taken, refused⟩ | ⟨admitted, inserted⟩
  · rw [contains, before] at taken
    rw [step, replay, refused]
    exact ⟨rejects, taken, rfl, rfl⟩
  · rw [contains, before] at admitted
    rw [step, replay, inserted]
    exact ⟨admitted, before, rfl⟩

/-- Keys that read alike when joined, and keys that differ in case. Of two second bindings one is
refused and one allowed, and then the registry is read backwards. -/
theorem replay_keeps_keys_apart :
    let value (address : Nat) : Extern := ⟨0, .global ⟨address, ⟨.i32, false⟩⟩⟩
    let ns := empty.replay [
      ⟨"a", "b.c", value 1, .reject⟩, ⟨"a.b", "c", value 2, .reject⟩,
      ⟨"env", "A", value 3, .reject⟩, ⟨"env", "a", value 4, .reject⟩,
      ⟨"env", "A", value 5, .reject⟩, ⟨"env", "a", value 6, .allow⟩]
    let order : List ModuleGroup := [
      ("env", [("a", value 6), ("A", value 3)]), ("a.b", [("c", value 2)]),
      ("a", [("b.c", value 1)])]
    Rearranges order ns.groups ∧
      ns.get? "a" "b.c" = some (value 1) ∧ ns.get? "a.b" "c" = some (value 2) ∧
      ns.get? "env" "A" = some (value 3) ∧ ns.get? "env" "a" = some (value 6) ∧
      ns.size = 4 ∧ ns.isEmpty = false ∧
      ∃ yielded, (Cursor.start order).Yields yielded ∧
        ("env", "A", value 3) ∈ yielded ∧ ("env", "A", value 5) ∉ yielded := by
  intro value ns order
  have arranged : Rearranges order ns.groups := by
    refine ⟨ns.groups.reverse, List.reverse_perm _, ?_⟩
    exact .cons ⟨rfl, List.Perm.swap _ _ _⟩ (.cons ⟨rfl, .refl _⟩ (.cons ⟨rfl, .refl _⟩ .nil))
  obtain ⟨holds, _, _, _, ⟨yielded, ends, _, listed⟩, _, isEmpty⟩ :=
    replay_refines_map _ order arranged
  have upper : ns.get? "env" "A" = some (value 3) := holds "env" "A"
  refine ⟨arranged, holds "a" "b.c", holds "a.b" "c", upper, holds "env" "a", rfl, ?_, ?_⟩
  · rw [← Bool.not_eq_true, isEmpty]
    intro unbound
    rw [unbound] at upper
    cases upper
  · refine ⟨yielded, (ends yielded).mpr rfl, (listed _ _ _).mpr upper, ?_⟩
    intro member
    have refused := (listed _ _ _).mp member
    rw [upper] at refused
    cases refused

end Namespace

end Linkage
