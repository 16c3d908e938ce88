import Linkage.Proofs.Definition
import Linkage.Proofs.Resolution

/-!
Values of like types. Of a type only its shape matters to linking: the signature of a function, the
whole type of a global, the elements of a table, and of a memory nothing but that it is one. A value
may stand for another exactly if their types have one shape, which makes compatibility an equivalence
on the values that can be bound. So a binding can be replaced by a like value without any module
noticing it in what resolves: the new value stands where the old one stood.
-/

namespace Linkage

inductive TypeShape where
  | func (type : FuncType)
  | global (type : GlobalType)
  | memory
  | table (element : ValType)
  deriving DecidableEq, Repr

/-- The part of a type that is compared. Types that cannot be imported have none. -/
def ExternType.shape? : ExternType → Option TypeShape
  | .func type => some (.func type)
  | .global type => some (.global type)
  | .memory _ => some .memory
  | .table type => some (.table type.element)
  | .tag _ => none

theorem ExternType.accepts_iff {expected found : ExternType} :
    expected.accepts found = true ↔
      ∃ shape, expected.shape? = some shape ∧ found.shape? = some shape := by
  cases expected <;> cases found <;> simp [accepts, shape?, eq_comm]

theorem ExternType.accepts_congr {one other : ExternType} (like : one.accepts other = true)
    (expected : ExternType) : expected.accepts other = expected.accepts one := by
  obtain ⟨shape, ofOne, ofOther⟩ := accepts_iff.mp like
  rw [Bool.eq_iff_iff, accepts_iff, accepts_iff]
  simp [ofOne, ofOther]

theorem ExternType.exists_shape {type : ExternType} {kind : ExternKind}
    (found : type.kind? = some kind) : ∃ shape, type.shape? = some shape := by
  cases type <;> simp_all [kind?, shape?]

namespace Linker

/-- The value `other` may stand wherever the type of `value` is declared. -/
def Like (linker : Linker) (value other : Extern) : Prop :=
  linker.compatible (linker.store.typeOf value.item) other = true

theorem like_iff {linker : Linker} {value other : Extern} :
    linker.Like value other ↔ ∃ shape, (linker.store.typeOf value.item).shape? = some shape ∧
      (linker.store.typeOf other.item).shape? = some shape :=
  ExternType.accepts_iff

theorem like_equivalence (linker : Linker) :
    Equivalence fun value other : { value // linker.store.Bindable value } =>
      linker.Like value other where
  refl value := by
    obtain ⟨kind, found⟩ := value.property.kind
    obtain ⟨shape, ofValue⟩ := ExternType.exists_shape found
    exact like_iff.mpr ⟨shape, ofValue, ofValue⟩
  symm like := by
    obtain ⟨shape, ofFirst, ofSecond⟩ := like_iff.mp like
    exact like_iff.mpr ⟨shape, ofSecond, ofFirst⟩
  trans like likeToo := by
    obtain ⟨shape, ofFirst, ofSecond⟩ := like_iff.mp like
    obtain ⟨other, again, ofThird⟩ := like_iff.mp likeToo
    cases ofSecond.symm.trans again
    exact like_iff.mpr ⟨shape, ofFirst, ofThird⟩

/-- One binding has been replaced by a like value, and nothing else has changed that matching
imports looks at. -/
structure Replaces (key : String × String) (old value : Extern) (before after : Linker) :
    Prop where
  store : after.store = before.store
  bound : before.get? key.1 key.2 = some old
  rebound : after.get? key.1 key.2 = some value
  others : ∀ other ≠ key, after.get? other.1 other.2 = before.get? other.1 other.2
  like : before.Like old value

theorem define_replaces {linker : Linker} {module name : String} {old value : Extern}
    (bound : linker.get? module name = some old) (bindable : linker.store.Bindable value)
    (like : linker.Like old value) :
    ∃ after, define module name value (linker.allowShadowing true) = .ok () after ∧
      Replaces (module, name) old value linker after := by
  have still : (linker.allowShadowing true).store.Bindable value := bindable
  have allowed : (linker.allowShadowing true).Open module name := nofun
  obtain ⟨trace, defined⟩ := define_of_bindable still allowed
  refine ⟨_, defined, rfl, bound, linker.registry.get?_put_self module name value, ?_, like⟩
  exact fun other differs => linker.registry.get?_put_of_ne differs value

variable {key : String × String} {old value : Extern} {before after : Linker}

/-- Two failures blame one import for one reason. The types that were found differ only if the
import's value is the one that was replaced. -/
inductive SameBlame (key : String × String) (old value : Extern) (linker : Linker) :
    LinkError → LinkError → Prop where
  | unresolved (module name : String) (expected : ExternType) :
      SameBlame key old value linker (.unresolvedImport module name expected)
        (.unresolvedImport module name expected)
  | elsewhere {module name : String} (differs : (module, name) ≠ key)
      (expected found : ExternType) :
      SameBlame key old value linker (.importTypeMismatch module name expected found)
        (.importTypeMismatch module name expected found)
  | replaced (expected : ExternType) :
      SameBlame key old value linker
        (.importTypeMismatch key.1 key.2 expected (linker.store.typeOf old.item))
        (.importTypeMismatch key.1 key.2 expected (linker.store.typeOf value.item))

inductive Rematched (imports : List Import) (key : String × String) (old value : Extern)
    (linker : Linker) : Except LinkError (List Extern) → Except LinkError (List Extern) → Prop where
  | resolved {values others : List Extern} (length : others.length = values.length)
      (replaced : ∀ (k : Nat) (i : Import), imports[k]? = some i → (i.module, i.name) = key →
        values[k]? = some old ∧ others[k]? = some value)
      (elsewhere : ∀ (k : Nat) (i : Import), imports[k]? = some i → (i.module, i.name) ≠ key →
        others[k]? = values[k]?) :
      Rematched imports key old value linker (.ok values) (.ok others)
  | failed {error other : LinkError} (blame : SameBlame key old value linker error other) :
      Rematched imports key old value linker (.error error) (.error other)

theorem Replaces.compatible_eq (replaces : Replaces key old value before after)
    (expected : ExternType) (found : Extern) :
    after.compatible expected found = before.compatible expected found := by
  rw [compatible, compatible, replaces.store]

theorem Replaces.compatible_value (replaces : Replaces key old value before after)
    (expected : ExternType) : after.compatible expected value = before.compatible expected old := by
  rw [replaces.compatible_eq]
  exact ExternType.accepts_congr replaces.like expected

theorem Replaces.fits (replaces : Replaces key old value before after) {i : Import}
    {found : Extern} (fits : before.Fits i found) : ∃ other, after.Fits i other := by
  by_cases same : (i.module, i.name) = key
  · subst same
    cases fits.bound.symm.trans replaces.bound
    exact ⟨value, replaces.rebound, (replaces.compatible_value _).trans fits.compatible⟩
  · exact ⟨found, (replaces.others _ same).trans fits.bound,
      (replaces.compatible_eq _ _).trans fits.compatible⟩

theorem Replaces.misfit (replaces : Replaces key old value before after) {i : Import}
    {error : LinkError} (misfit : before.Misfit i error) :
    ∃ other, after.Misfit i other ∧ SameBlame key old value before error other := by
  by_cases same : (i.module, i.name) = key
  · subst same
    cases misfit with
    | unresolved unbound => cases unbound.symm.trans replaces.bound
    | mismatched bound incompatible =>
        cases bound.symm.trans replaces.bound
        have still := (replaces.compatible_value i.type).trans incompatible
        refine ⟨_, .mismatched replaces.rebound still, ?_⟩
        rw [replaces.store]
        exact .replaced i.type
  · have kept := replaces.others _ same
    cases misfit with
    | unresolved unbound => exact ⟨_, .unresolved (kept.trans unbound), .unresolved _ _ _⟩
    | mismatched bound incompatible =>
        have still := (replaces.compatible_eq _ _).trans incompatible
        refine ⟨_, .mismatched (kept.trans bound) still, ?_⟩
        rw [replaces.store]
        exact .elsewhere same i.type _

theorem Replaces.rematched (replaces : Replaces key old value before after)
    (imports : List Import) : Rematched imports key old value before
      (before.resolveImports imports) (after.resolveImports imports) := by
  cases matched : before.resolveImports imports with
  | error error =>
      obtain ⟨k, i, at_k, misfit, earlier⟩ := resolveImports_eq_error_iff.mp matched
      obtain ⟨other, again, blame⟩ := replaces.misfit misfit
      have failed : after.resolveImports imports = .error other := by
        refine resolveImports_eq_error_iff.mpr ⟨k, i, at_k, again, ?_⟩
        intro j below first at_j
        obtain ⟨found, fits⟩ := earlier j below first at_j
        exact replaces.fits fits
      rw [failed]
      exact .failed blame
  | ok values =>
      have fitting := resolveImports_eq_ok_iff.mp matched
      cases rematched : after.resolveImports imports with
      | error error =>
          obtain ⟨k, i, at_k, misfit, _⟩ := resolveImports_eq_error_iff.mp rematched
          obtain ⟨found, _, fits⟩ := forall₂_getElem? fitting at_k
          obtain ⟨other, again⟩ := replaces.fits fits
          exact absurd again (misfit.not_fits other)
      | ok others =>
          have refitting := resolveImports_eq_ok_iff.mp rematched
          refine .resolved (refitting.length_eq.symm.trans fitting.length_eq) ?_ ?_
          all_goals
            intro k i at_k
            obtain ⟨found, at_values, fits⟩ := forall₂_getElem? fitting at_k
            obtain ⟨other, at_others, refits⟩ := forall₂_getElem? refitting at_k
          · rintro rfl
            cases fits.bound.symm.trans replaces.bound
            cases refits.bound.symm.trans replaces.rebound
            exact ⟨at_values, at_others⟩
          · intro differs
            cases refits.bound.symm.trans ((replaces.others _ differs).trans fits.bound)
            exact at_others.trans at_values.symm

/-- Being of a like type is an equivalence on the values that can be bound. A value that can be
bound and is like the one that a key has takes its place, where redefinitions are allowed, and then
every module is resolved as before: to the same values but for the new one at the positions of that
key, or with the same blame. -/
theorem like_value_takes_the_place (linker : Linker) :
    (Equivalence fun value other : { value // linker.store.Bindable value } =>
      linker.Like value other) ∧
    ∀ module name old value, linker.get? module name = some old → linker.store.Bindable value →
      linker.Like old value →
      ∃ after, define module name value (linker.allowShadowing true) = .ok () after ∧
        ∀ m : Module, Rematched m.imports (module, name) old value linker (linker.resolve m)
          (after.resolve m) := by
  refine ⟨linker.like_equivalence, ?_⟩
  intro module name old value bound bindable like
  obtain ⟨after, defined, replaces⟩ := define_replaces bound bindable like
  exact ⟨after, defined, fun m => replaces.rematched m.imports⟩

/-- A memory takes the place of one with other limits. A module that imports the key twice, with a
function in between, gets the new memory at both places. One that imports the key as a global fails
as before, and is told the limits of the new memory. -/
theorem like_memory_takes_the_place :
    let func : Extern := ⟨0, .func ⟨0, ⟨[], []⟩⟩⟩
    let old : Extern := ⟨0, .memory ⟨0, none, false⟩⟩
    let value : Extern := ⟨0, .memory ⟨1, some 9, true⟩⟩
    let linker : Linker := ⟨{ id := 0, memories := [Memory.empty 1, Memory.empty 4] },
      (Namespace.empty.put "env" "memory" old).put "env" "f" func, .reject, [], .interpreter⟩
    let memory : Import := ⟨"env", "memory", .memory ⟨1, none, false⟩⟩
    let m : Module := { imports := [memory, ⟨"env", "f", .func ⟨[], []⟩⟩, memory] }
    let misled : Module := { imports := [⟨"env", "memory", .global ⟨.i32, false⟩⟩] }
    ∃ after, define "env" "memory" value (linker.allowShadowing true) = .ok () after ∧
      (∃ others, after.resolve m = .ok others ∧ others[0]? = some value ∧
        others[1]? = some func ∧ others[2]? = some value) ∧
      ∃ error, after.resolve misled = .error error ∧
        SameBlame ("env", "memory") old value linker
          (.importTypeMismatch "env" "memory" (.global ⟨.i32, false⟩) (.memory ⟨1, none, false⟩))
          error := by
  intro func old value linker memory m misled
  have bindable : linker.store.Bindable value := ⟨rfl, .memory, rfl⟩
  obtain ⟨after, defined, rematched⟩ :=
    (like_value_takes_the_place linker).2 "env" "memory" old value rfl bindable rfl
  have resolved : linker.resolve m = .ok [old, func, old] := rfl
  have failed : linker.resolve misled = .error (.importTypeMismatch "env" "memory"
    (.global ⟨.i32, false⟩) (.memory ⟨1, none, false⟩)) := rfl
  refine ⟨after, defined, ?_, ?_⟩
  · have both := rematched m
    rw [resolved] at both
    generalize after.resolve m = outcome at both ⊢
    cases both with
    | @resolved _ others _ replaced elsewhere =>
        refine ⟨others, rfl, (replaced 0 memory rfl rfl).2, ?_, (replaced 2 memory rfl rfl).2⟩
        exact elsewhere 1 ⟨"env", "f", .func ⟨[], []⟩⟩ rfl (by decide)
  · have both := rematched misled
    rw [failed] at both
    generalize after.resolve misled = outcome at both ⊢
    cases both with
    | @failed _ other blame => exact ⟨other, rfl, blame⟩

end Linker

end Linkage
