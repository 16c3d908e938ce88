import Linkage.Proofs.Collision
import Linkage.Proofs.FiniteMap
import Linkage.Proofs.Run

/-!
The order of a batch. Each entry is judged by a registry that the entries before it have written,
but under distinct names they write nothing that it looks at. So whether a batch completes is no
matter of its order, and a completed batch leaves a registry that answers alike whatever the order
was. Only what a failed batch leaves behind, and which entry it blames, depend on it.
-/

namespace Linkage

theorem Namespace.get?_putAll_perm (ns : Namespace) (module : String)
    {entries other : List (String × Extern)} (distinct : (entries.map Prod.fst).Nodup)
    (permuted : entries.Perm other) (key : String × String) :
    (ns.putAll module entries).get? key.1 key.2 = (ns.putAll module other).get? key.1 key.2 := by
  by_cases entered : ∃ e ∈ entries, key = (module, e.1)
  · obtain ⟨⟨name, value⟩, member, rfl⟩ := entered
    have otherDistinct : (other.map Prod.fst).Nodup := (permuted.map Prod.fst).nodup distinct
    rw [ns.get?_putAll_of_mem distinct member,
      ns.get?_putAll_of_mem otherDistinct (permuted.mem_iff.mp member)]
  · have absent : ∀ e ∈ entries, key ≠ (module, e.1) := by simpa using entered
    rw [ns.get?_putAll_of_ne absent,
      ns.get?_putAll_of_ne fun e member => absent e (permuted.mem_iff.mpr member)]

theorem Linker.run_wellFormed (store : Store) (engine : Engine)
    (operations : List Linker.Operation) :
    ((Linker.new store engine).run operations).registry.WellFormed := by
  have stepKeeps : ∀ {before after : Linker}, Linker.Step before after →
      before.registry.WellFormed → after.registry.WellFormed := by
    intro before after step formed
    cases step with
    | bind _ _ => exact formed.put _ _ _
    | extend _ => exact formed
    | trace _ => exact formed
  exact Linker.run_induction stepKeeps (fun _ _ formed => formed) Namespace.wellFormed_empty
    operations

theorem putNamed_of_absent {α : Type} {name : String} (value : α) {named : List (String × α)}
    (absent : name ∉ named.map Prod.fst) :
    putNamed name value named = named ++ [(name, value)] := by
  induction named with
  | nil => rfl
  | cons first rest ih =>
      rw [List.map_cons, List.mem_cons, not_or] at absent
      rw [putNamed, if_neg (Ne.symm absent.1), ih absent.2, List.cons_append]

namespace Capability

theorem insertAll_of_distinct {module : String} {first entries : List (String × Extern)}
    (distinct : ((first ++ entries).map Prod.fst).Nodup) :
    insertAll ⟨module, first⟩ entries = ⟨module, first ++ entries⟩ := by
  induction entries generalizing first with
  | nil => simp [insertAll]
  | cons entry rest ih =>
      have absent : entry.1 ∉ first.map Prod.fst := by
        intro member
        rw [List.map_append, List.nodup_append] at distinct
        exact distinct.2.2 entry.1 member entry.1 (by simp) rfl
      have inserted : (⟨module, first⟩ : Capability).insert entry.1 entry.2 =
          ⟨module, first ++ [entry]⟩ := by
        simp [insert, putNamed_of_absent entry.2 absent]
      have others : insertAll ⟨module, first ++ [entry]⟩ rest =
          ⟨module, (first ++ [entry]) ++ rest⟩ := ih (by simpa using distinct)
      simp only [insertAll, List.foldl_cons, inserted] at others ⊢
      simpa using others

def listed (module : String) (entries : List (String × String × Extern)) :
    List (String × Extern) :=
  (entries.filter fun entry => entry.1 = module).map fun entry => entry.2

theorem listed_distinct {entries : List (String × String × Extern)}
    (distinct : (entries.map fun entry => (entry.1, entry.2.1)).Nodup) (module : String) :
    ((listed module entries).map Prod.fst).Nodup := by
  have differ := (List.pairwise_map.mp distinct).filter fun entry => entry.1 = module
  rw [listed, List.map_map, List.Nodup, List.pairwise_map]
  refine differ.imp_of_mem ?_
  -- Two keys under one module name differ in their names, or not at all.
  intro one two inOne inTwo keys names
  have owner : one.1 = module := by simpa using (List.mem_filter.mp inOne).2
  have otherOwner : two.1 = module := by simpa using (List.mem_filter.mp inTwo).2
  exact keys (Prod.ext (owner.trans otherOwner.symm) names)

theorem listed_perm {entries other : List (String × String × Extern)}
    (permuted : entries.Perm other) (module : String) :
    (listed module entries).Perm (listed module other) :=
  (permuted.filter _).map _

theorem ofEntries?_eq (module : String) (entries : List (String × String × Extern)) :
    ofEntries? module entries =
      if listed module entries = [] then none
      else some ((new module).insertAll (listed module entries)) := by
  unfold ofEntries?
  cases own : entries.filter fun entry => entry.1 = module with
  | nil => simp [listed, own]
  | cons first rest => simp [listed, own]

theorem ofEntries?_of_distinct {module : String} {entries : List (String × String × Extern)}
    (distinct : (entries.map fun entry => (entry.1, entry.2.1)).Nodup) :
    ofEntries? module entries =
      if listed module entries = [] then none else some ⟨module, listed module entries⟩ := by
  have inserted : (new module).insertAll (listed module entries) =
      ⟨module, listed module entries⟩ := insertAll_of_distinct (listed_distinct distinct module)
  rw [ofEntries?_eq, inserted]

end Capability

namespace Linker

theorem defineExports_completes_iff {linker : Linker} {module : String}
    {entries : List (String × Extern)} (distinct : (entries.map Prod.fst).Nodup) :
    (∃ after, defineExports module entries linker = .ok () after) ↔
      ∀ e ∈ entries, linker.store.Bindable e.2 ∧ linker.Open module e.1 := by
  constructor
  · rintro ⟨after, success⟩ e member
    have outcome := batched module entries linker
    rw [success] at outcome
    cases outcome with
    | completed admits _ =>
        refine ⟨admits.bindable e member, ?_⟩
        intro rejects
        exact Bool.eq_false_iff.mpr
          (free_of_admits rejects distinct admits e.1 (List.mem_map_of_mem member))
  · intro each
    obtain ⟨trace, success⟩ := defineExports_of_bindable (fun e member => (each e member).1)
      distinct (fun e member => (each e member).2)
    exact ⟨_, success⟩

/-- Two ways to register values over one linker come to the same: both succeed and no lookup tells
what they leave apart, or both fail. -/
inductive SameOutcome : EStateM.Result LinkError Linker Unit →
    EStateM.Result LinkError Linker Unit → Prop where
  | succeeded {first second : Linker}
      (lookups : ∀ module name, first.get? module name = second.get? module name)
      (size : first.registry.size = second.registry.size)
      (shadowing : first.shadowing = second.shadowing) (store : first.store = second.store) :
      SameOutcome (.ok () first) (.ok () second)
  | failed (error other : LinkError) (first second : Linker) :
      SameOutcome (.error error first) (.error other second)

theorem defineExports_perm {linker : Linker} (formed : linker.registry.WellFormed)
    {module : String} {entries other : List (String × Extern)}
    (distinct : (entries.map Prod.fst).Nodup) (permuted : entries.Perm other) :
    SameOutcome (defineExports module entries linker) (defineExports module other linker) := by
  have otherDistinct : (other.map Prod.fst).Nodup := (permuted.map Prod.fst).nodup distinct
  have complete : (∃ after, defineExports module entries linker = .ok () after) ↔
      ∃ after, defineExports module other linker = .ok () after := by
    rw [defineExports_completes_iff distinct, defineExports_completes_iff otherDistinct]
    simp only [permuted.mem_iff]
  have lookups := linker.registry.get?_putAll_perm module distinct permuted
  have outcome := batched module entries linker
  have otherOutcome := batched module other linker
  generalize defineExports module entries linker = result at outcome complete
  generalize defineExports module other linker = otherResult at otherOutcome complete
  cases outcome with
  | completed _ _ =>
      cases otherOutcome with
      | completed _ _ =>
          have alike : ∀ module name, _ := fun module name => lookups (module, name)
          have size := (formed.putAll module entries).size_eq (formed.putAll module other) alike
          exact .succeeded alike size rfl rfl
      | stopped _ _ _ _ => simp at complete
  | stopped _ _ _ _ =>
      cases otherOutcome with
      | completed _ _ => simp at complete
      | stopped _ _ _ _ => exact .failed _ _ _ _

/-- On every linker that a run leads to, a list of values under distinct names and any rearrangement
of it are registered with the same outcome. So are the capabilities that are taken out of keyed
values in different orders: there is none in either order, or registering the two comes to the
same. -/
theorem entry_order_matters_to_failures_only (store : Store) (engine : Engine)
    (operations : List Operation) :
    let linker := (new store engine).run operations
    (∀ module (entries other : List (String × Extern)),
      (entries.map Prod.fst).Nodup → entries.Perm other →
      SameOutcome (defineExports module entries linker) (defineExports module other linker)) ∧
    ∀ module (entries other : List (String × String × Extern)),
      (entries.map fun entry => (entry.1, entry.2.1)).Nodup → entries.Perm other →
      Option.Rel (fun first second => SameOutcome (defineHost first linker) (defineHost second linker))
        (Capability.ofEntries? module entries) (Capability.ofEntries? module other) := by
  intro linker
  have formed : linker.registry.WellFormed := run_wellFormed store engine operations
  constructor
  · intro module entries other distinct permuted
    exact defineExports_perm formed distinct permuted
  · intro module entries other distinct permuted
    have own := Capability.listed_perm permuted module
    have ownDistinct := Capability.listed_distinct distinct module
    have otherDistinct := (permuted.map fun entry => (entry.1, entry.2.1)).nodup distinct
    rw [Capability.ofEntries?_of_distinct distinct, Capability.ofEntries?_of_distinct otherDistinct]
    by_cases nothing : Capability.listed module entries = []
    · have otherNothing : Capability.listed module other = [] := (nothing ▸ own).nil_eq.symm
      rw [if_pos nothing, if_pos otherNothing]
      exact .none
    · have something : ¬ Capability.listed module other = [] :=
        fun none => nothing (none ▸ own).eq_nil
      rw [if_neg nothing, if_neg something]
      exact .some (defineExports_perm formed ownDistinct own)

/-- A function and a second function under a name that is taken, in both orders: both fail, and one
of them has bound the first function by then. A capability with the two functions under free names
is registered in both orders. -/
theorem entry_order_of_taken_name :
    let func : Extern := ⟨0, .func ⟨0, ⟨[], []⟩⟩⟩
    let second : Extern := ⟨0, .func ⟨1, ⟨[], []⟩⟩⟩
    let linker := (new { id := 0 }).run
      [.onStore (.newFunc ⟨⟨[], []⟩, .host "f" (.values [])⟩),
        .onStore (.newFunc ⟨⟨[], []⟩, .host "g" (.values [])⟩), .define "host" "taken" func]
    let entries := [("a", func), ("taken", second)]
    let keyed := [("host", "a", func), ("env", "taken", func), ("host", "b", second)]
    SameOutcome (defineExports "host" entries linker) (defineExports "host" entries.reverse linker) ∧
      (∃ error after, defineExports "host" entries linker = .error error after ∧
        after.get? "host" "a" = some func) ∧
      (∃ error after, defineExports "host" entries.reverse linker = .error error after ∧
        after.get? "host" "a" = none) ∧
      ∃ first second, Capability.ofEntries? "host" keyed = some first ∧
        Capability.ofEntries? "host" keyed.reverse = some second ∧ first ≠ second ∧
        SameOutcome (defineHost first linker) (defineHost second linker) := by
  intro func second linker entries keyed
  obtain ⟨lists, capabilities⟩ := entry_order_matters_to_failures_only { id := 0 } .interpreter
    [.onStore (.newFunc ⟨⟨[], []⟩, .host "f" (.values [])⟩),
      .onStore (.newFunc ⟨⟨[], []⟩, .host "g" (.values [])⟩), .define "host" "taken" func]
  refine ⟨lists "host" entries _ (by decide) (List.reverse_perm _).symm, ⟨_, _, rfl, rfl⟩,
    ⟨_, _, rfl, rfl⟩, ⟨"host", [("a", func), ("b", second)]⟩,
    ⟨"host", [("b", second), ("a", func)]⟩, by decide, by decide, by decide, ?_⟩
  have both := capabilities "host" keyed _ (by decide) (List.reverse_perm _).symm
  cases both with
  | some same => exact same

end Linker

end Linkage
