import Mathlib.Data.List.Forall2
import Linkage.Linker.Resolve

/-!
What matching imports against bindings gives. It succeeds exactly if each import on its own is
bound to a value that may stand there, and then it gives these values by position. Otherwise the
first import that is not so bound decides the error, whatever is wrong with later ones.
-/

namespace Linkage.Linker

structure Fits (linker : Linker) (i : Import) (value : Extern) : Prop where
  bound : linker.get? i.module i.name = some value
  compatible : linker.compatible i.type value = true

/-- What is wrong with an import that no value fits: it is unbound, or its value is of another
type, which the error tells as it is now. -/
inductive Misfit (linker : Linker) (i : Import) : LinkError → Prop where
  | unresolved (unbound : linker.get? i.module i.name = none) :
      Misfit linker i (.unresolvedImport i.module i.name i.type)
  | mismatched {value : Extern} (bound : linker.get? i.module i.name = some value)
      (incompatible : linker.compatible i.type value = false) :
      Misfit linker i
        (.importTypeMismatch i.module i.name i.type (linker.store.typeOf value.item))

theorem resolveImport_eq_ok_iff {linker : Linker} {i : Import} {value : Extern} :
    linker.resolveImport i = .ok value ↔ linker.Fits i value := by
  unfold resolveImport
  cases found : linker.get? i.module i.name with
  | none =>
      constructor
      · intro success
        cases success
      · intro fits
        rw [fits.bound] at found
        cases found
  | some other =>
      dsimp only
      split
      · next compatible =>
        constructor
        · intro success
          cases success
          exact ⟨found, compatible⟩
        · intro fits
          rw [Option.some.inj (fits.bound.symm.trans found)]
      · next incompatible =>
        constructor
        · intro success
          cases success
        · intro fits
          rw [← Option.some.inj (fits.bound.symm.trans found)] at incompatible
          exact absurd fits.compatible incompatible

theorem resolveImport_eq_error_iff {linker : Linker} {i : Import} {error : LinkError} :
    linker.resolveImport i = .error error ↔ linker.Misfit i error := by
  unfold resolveImport
  constructor
  · intro failure
    cases found : linker.get? i.module i.name with
    | none =>
        simp only [found, Except.error.injEq] at failure
        subst failure
        exact .unresolved found
    | some value =>
        simp only [found] at failure
        split at failure
        · cases failure
        · next incompatible =>
          cases failure
          exact .mismatched found (Bool.not_eq_true _ ▸ incompatible)
  · intro misfit
    cases misfit with
    | unresolved unbound => simp only [unbound]
    | mismatched bound incompatible => simp [bound, incompatible]

theorem resolveImports_cons_of_ok {linker : Linker} {i : Import} {value : Extern}
    (success : linker.resolveImport i = .ok value) (rest : List Import) :
    linker.resolveImports (i :: rest) = (linker.resolveImports rest).map (value :: ·) := by
  rw [resolveImports, success]
  cases linker.resolveImports rest <;> rfl

theorem resolveImports_cons_of_error {linker : Linker} {i : Import} {error : LinkError}
    (failure : linker.resolveImport i = .error error) (rest : List Import) :
    linker.resolveImports (i :: rest) = .error error := by
  rw [resolveImports, failure]
  rfl

theorem resolveImports_eq_ok_iff {linker : Linker} {imports : List Import}
    {values : List Extern} :
    linker.resolveImports imports = .ok values ↔ List.Forall₂ linker.Fits imports values := by
  induction imports generalizing values with
  | nil =>
      rw [List.forall₂_nil_left_iff, resolveImports, Except.ok.injEq]
      exact eq_comm
  | cons i rest ih =>
      rw [List.forall₂_cons_left_iff]
      cases found : linker.resolveImport i with
      | error error =>
          rw [resolveImports_cons_of_error found]
          constructor
          · intro success
            cases success
          · rintro ⟨value, _, fits, _, _⟩
            rw [resolveImport_eq_ok_iff.mpr fits] at found
            cases found
      | ok value =>
          rw [resolveImports_cons_of_ok found]
          constructor
          · intro success
            cases tail : linker.resolveImports rest with
            | error error =>
                rw [tail] at success
                cases success
            | ok others =>
                rw [tail] at success
                cases success
                exact ⟨value, others, resolveImport_eq_ok_iff.mp found, ih.mp tail, rfl⟩
          · rintro ⟨other, others, fits, tail, equal⟩
            have same : value = other :=
              Except.ok.inj (found.symm.trans (resolveImport_eq_ok_iff.mpr fits))
            rw [ih.mpr tail, equal, same]
            rfl

theorem resolveImports_eq_error_iff {linker : Linker} {imports : List Import}
    {error : LinkError} :
    linker.resolveImports imports = .error error ↔
      ∃ (k : Nat) (i : Import), imports[k]? = some i ∧ linker.Misfit i error ∧
        ∀ j < k, ∀ earlier, imports[j]? = some earlier →
          ∃ value, linker.Fits earlier value := by
  induction imports with
  | nil =>
      constructor
      · intro failure
        cases failure
      · rintro ⟨k, i, found, _⟩
        cases found
  | cons first rest ih =>
      cases found : linker.resolveImport first with
      | error fault =>
          rw [resolveImports_cons_of_error found]
          constructor
          · intro failure
            cases failure
            exact ⟨0, first, rfl, resolveImport_eq_error_iff.mp found, by simp⟩
          · rintro ⟨k, i, at_k, misfit, earlier⟩
            cases k with
            | zero =>
                cases at_k
                have same : fault = error :=
                  Except.error.inj (found.symm.trans (resolveImport_eq_error_iff.mpr misfit))
                rw [same]
            | succ k =>
                obtain ⟨value, fits⟩ := earlier 0 (Nat.succ_pos k) first rfl
                rw [resolveImport_eq_ok_iff.mpr fits] at found
                cases found
      | ok value =>
          -- The first import fits, so a position in the rest is one less than in the whole.
          have fits := resolveImport_eq_ok_iff.mp found
          have tail : (linker.resolveImports (first :: rest) = .error error ↔
              linker.resolveImports rest = .error error) := by
            rw [resolveImports_cons_of_ok found]
            cases linker.resolveImports rest <;> simp [Except.map]
          rw [tail, ih]
          constructor
          · rintro ⟨k, i, at_k, misfit, earlier⟩
            refine ⟨k + 1, i, at_k, misfit, ?_⟩
            intro j below other at_j
            cases j with
            | zero =>
                cases at_j
                exact ⟨value, fits⟩
            | succ j => exact earlier j (Nat.lt_of_succ_lt_succ below) other at_j
          · rintro ⟨k, i, at_k, misfit, earlier⟩
            cases k with
            | zero =>
                cases at_k
                rw [resolveImport_eq_error_iff.mpr misfit] at found
                cases found
            | succ k =>
                exact ⟨k, i, at_k, misfit, fun j below => earlier (j + 1) (Nat.succ_lt_succ below)⟩

theorem resolveImports_congr {first second : Linker} {imports : List Import}
    (types : ∀ item, first.store.typeOf item = second.store.typeOf item)
    (bindings : ∀ i ∈ imports, first.get? i.module i.name = second.get? i.module i.name) :
    first.resolveImports imports = second.resolveImports imports := by
  induction imports with
  | nil => rfl
  | cons i rest ih =>
      have head : first.resolveImport i = second.resolveImport i := by
        simp only [resolveImport, compatible, types, bindings i List.mem_cons_self]
        rfl
      rw [resolveImports, resolveImports, head,
        ih fun other member => bindings other (List.mem_cons_of_mem i member)]

theorem Misfit.not_fits {linker : Linker} {i : Import} {error : LinkError}
    (misfit : linker.Misfit i error) (value : Extern) : ¬ linker.Fits i value := by
  intro fits
  have success := resolveImport_eq_ok_iff.mpr fits
  rw [resolveImport_eq_error_iff.mpr misfit] at success
  cases success

theorem forall₂_getElem? {α β : Type} {relation : α → β → Prop} {left : List α} {right : List β}
    (related : List.Forall₂ relation left right) {k : Nat} {a : α} (found : left[k]? = some a) :
    ∃ b, right[k]? = some b ∧ relation a b := by
  induction related generalizing k with
  | nil => cases found
  | cons head _ ih =>
      cases k with
      | zero =>
          cases found
          exact ⟨_, rfl, head⟩
      | succ k => exact ih found

theorem forall₂_mem_right {α β : Type} {relation : α → β → Prop} {left : List α} {right : List β}
    (related : List.Forall₂ relation left right) {b : β} (member : b ∈ right) :
    ∃ a ∈ left, relation a b := by
  induction related with
  | nil => cases member
  | @cons a other _ _ head _ ih =>
      rcases List.mem_cons.mp member with same | later
      · exact ⟨a, List.mem_cons_self, same ▸ head⟩
      · obtain ⟨c, inLeft, holds⟩ := ih later
        exact ⟨c, List.mem_cons_of_mem a inLeft, holds⟩

theorem resolveImports_succeeds_iff {linker : Linker} {imports : List Import} :
    (∃ values, linker.resolveImports imports = .ok values) ↔
      ∀ i ∈ imports, ∃ value, linker.Fits i value := by
  constructor
  · rintro ⟨values, success⟩ i member
    obtain ⟨k, found⟩ := List.getElem?_of_mem member
    obtain ⟨value, _, fits⟩ := forall₂_getElem? (resolveImports_eq_ok_iff.mp success) found
    exact ⟨value, fits⟩
  · intro fitted
    cases outcome : linker.resolveImports imports with
    | ok values => exact ⟨values, rfl⟩
    | error error =>
        obtain ⟨k, i, found, misfit, _⟩ := resolveImports_eq_error_iff.mp outcome
        obtain ⟨value, fits⟩ := fitted i (List.mem_of_getElem? found)
        exact absurd fits (misfit.not_fits value)

/-- Resolution succeeds exactly if a value fits every import, and its result has the binding of
each import at the import's own position. It fails with what is wrong with the import of the least
position that nothing fits. -/
theorem resolve_exact (linker : Linker) (m : Module) :
    ((∃ values, linker.resolve m = .ok values) ↔
      ∀ i ∈ m.imports, ∃ value, linker.Fits i value) ∧
    (∀ values, linker.resolve m = .ok values →
      values.length = m.imports.length ∧
      ∀ (k : Nat) (i : Import), m.imports[k]? = some i →
        values[k]? = linker.get? i.module i.name) ∧
    (∀ error, linker.resolve m = .error error ↔
      ∃ (k : Nat) (i : Import), m.imports[k]? = some i ∧ linker.Misfit i error ∧
        ∀ j < k, ∀ earlier, m.imports[j]? = some earlier →
          ∃ value, linker.Fits earlier value) := by
  refine ⟨resolveImports_succeeds_iff, ?_, fun error => resolveImports_eq_error_iff⟩
  · intro values success
    have related := resolveImports_eq_ok_iff.mp success
    refine ⟨related.length_eq.symm, ?_⟩
    intro k i found
    obtain ⟨value, at_k, fits⟩ := forall₂_getElem? related found
    rw [at_k, fits.bound]

/-- A key that is imported twice with different types: the mismatch of its second import comes
before a later import that is not bound at all. -/
theorem resolve_mismatch_before_unbound :
    resolve
        ⟨{ id := 0 }, Namespace.empty.put "env" "f" ⟨0, .func ⟨0, ⟨[.i32], []⟩⟩⟩, .reject, [],
          .interpreter⟩
        { imports := [⟨"env", "f", .func ⟨[.i32], []⟩⟩, ⟨"env", "f", .func ⟨[], []⟩⟩,
            ⟨"env", "g", .func ⟨[], []⟩⟩] } =
      .error (.importTypeMismatch "env" "f" (.func ⟨[], []⟩) (.func ⟨[.i32], []⟩)) := by
  refine ((resolve_exact _ _).2.2 _).mpr ⟨1, _, rfl, resolveImport_eq_error_iff.mp rfl, ?_⟩
  intro j below earlier found
  have first : j = 0 := Nat.lt_one_iff.mp below
  subst first
  cases found
  exact ⟨_, resolveImport_eq_ok_iff.mp rfl⟩

end Linkage.Linker
