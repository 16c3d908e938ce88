import Linkage.Proofs.Alongside
import Linkage.Proofs.Ownership

/-!
Aliases as assignments. A manifest that has nothing but aliases runs like a program of assignments
`key := source` over a table of keys: one after the other, each reading the table as the ones before
it have left it. What it copies is the handle that the source has at that moment. An assignment fails
if its source has no value, and else only if its key has one that may not be replaced.
-/

namespace Linkage

def Alias.key (copy : Alias) : String × String :=
  (copy.module, copy.name)

def Alias.source (copy : Alias) : String × String :=
  (copy.fromModule, copy.fromName)

abbrev Bindings := String × String → Option Extern

def Bindings.assign (shadowing : Shadowing) (copy : Alias) : EStateM ManifestError Bindings Unit :=
  fun table =>
    match table copy.source with
    | none => .error (.danglingAlias copy) table
    | some value =>
        if shadowing = .reject ∧ (table copy.key).isSome then
          .error (.link (.duplicateDefinition copy.module copy.name)) table
        else .ok () (Function.update table copy.key (some value))

def Bindings.assignAll (shadowing : Shadowing) (copies : List Alias) :
    EStateM ManifestError Bindings Unit :=
  copies.forM (assign shadowing)

/-- The linker has the bindings of the table, all of them of values that may be bound over its
store, and it has the setting. -/
structure Linker.Reads (store : Store) (shadowing : Shadowing) (linker : Linker)
    (table : Bindings) : Prop where
  bindings : ∀ key, linker.get? key.1 key.2 = table key
  bindable : ∀ key value, table key = some value → store.Bindable value
  store : linker.store = store
  shadowing : linker.shadowing = shadowing

theorem Linker.Reads.put {store : Store} {shadowing : Shadowing} {linker : Linker}
    {table : Bindings} (reads : linker.Reads store shadowing table) {module name : String}
    {value : Extern} (bindable : store.Bindable value) (trace : List TraceEntry) :
    Reads store shadowing { linker with
      registry := linker.registry.put module name value
      trace := trace } (Function.update table (module, name) (some value)) where
  bindings := by
    intro key
    by_cases same : key = (module, name)
    · subst same
      rw [Function.update_self]
      exact linker.registry.get?_put_self module name value
    · rw [Function.update_of_ne same, ← reads.bindings key]
      exact linker.registry.get?_put_of_ne same value
  bindable := by
    intro key other found
    by_cases same : key = (module, name)
    · rw [same, Function.update_self] at found
      exact Option.some.inj found ▸ bindable
    · rw [Function.update_of_ne same] at found
      exact reads.bindable key other found
  store := reads.store
  shadowing := reads.shadowing

namespace Manifest

section
variable {store : Store} {shadowing : Shadowing} {linker after : Linker} {table : Bindings}
  {copy : Alias} {error : ManifestError}

theorem applyAlias_alongside (copy : Alias) :
    Alongside (Linker.Reads store shadowing) Eq (applyAlias copy)
      (Bindings.assign shadowing copy) := by
  intro linker table reads
  have source : linker.get? copy.fromModule copy.fromName = table copy.source :=
    reads.bindings copy.source
  simp only [applyAlias, Bindings.assign, source]
  cases found : table copy.source with
  | none => exact .error rfl reads
  | some value =>
      have bindable := reads.bindable _ _ found
      have key : linker.registry.contains copy.module copy.name = (table copy.key).isSome :=
        congrArg Option.isSome (reads.bindings copy.key)
      have own : linker.store.Bindable value := by rwa [reads.store]
      rcases Linker.define_binds_or_collides own with
        ⟨isOpen, trace, defined⟩ | ⟨rejects, taken, refused⟩
      · have admitted : ¬ (shadowing = .reject ∧ (table copy.key).isSome = true) := by
          rintro ⟨rejects, taken⟩
          rw [← key, isOpen (reads.shadowing.trans rejects)] at taken
          cases taken
        simp only [EStateM.adaptExcept, defined, if_neg admitted]
        exact .ok (reads.put bindable trace)
      · have collides : shadowing = .reject ∧ (table copy.key).isSome = true :=
          ⟨reads.shadowing.symm.trans rejects, key ▸ taken⟩
        simp only [EStateM.adaptExcept, refused, if_pos collides]
        exact .error rfl reads

inductive AliasFault (linker : Linker) (copy : Alias) : ManifestError → Prop where
  | dangling (unbound : linker.get? copy.fromModule copy.fromName = none) :
      AliasFault linker copy (.danglingAlias copy)
  | taken {value : Extern} (found : linker.get? copy.fromModule copy.fromName = some value)
      (rejects : linker.shadowing = .reject)
      (taken : linker.registry.contains copy.module copy.name = true) :
      AliasFault linker copy (.link (.duplicateDefinition copy.module copy.name))

theorem applyAlias_eq_error_iff (reads : linker.Reads store shadowing table) :
    applyAlias copy linker = .error error after ↔ after = linker ∧ AliasFault linker copy error := by
  unfold applyAlias
  cases found : linker.get? copy.fromModule copy.fromName with
  | none =>
      constructor
      · rintro ⟨⟩
        exact ⟨rfl, .dangling found⟩
      · rintro ⟨rfl, _ | ⟨bound, _, _⟩⟩
        · rfl
        · cases found.symm.trans bound
  | some value =>
      have bindable := reads.bindable copy.source value ((reads.bindings copy.source).symm.trans found)
      have own : linker.store.Bindable value := by rwa [reads.store]
      simp only [adaptExcept_eq_error_iff]
      constructor
      · rintro ⟨fault, failed, rfl⟩
        rcases Linker.define_binds_or_collides own with
          ⟨_, _, defined⟩ | ⟨rejects, taken, refused⟩
        · cases defined.symm.trans failed
        · cases refused.symm.trans failed
          exact ⟨rfl, .taken found rejects taken⟩
      · rintro ⟨rfl, unbound | ⟨_, rejects, taken⟩⟩
        · cases found.symm.trans unbound
        · exact ⟨_, Linker.define_of_taken own rejects taken, rfl⟩

end

variable {files : FileSystem} {manifest : Manifest} {linker after : Linker}

theorem apply_eq_aliases (noPreloads : manifest.preloads = []) (noMain : manifest.main = none) :
    manifest.apply files linker =
      (do manifest.aliases.forM applyAlias; pure none : Linking ManifestError (Option Instance))
        (manifest.applyShadowing linker) := by
  simp only [apply, noPreloads, applyMain, noMain]
  rfl

theorem apply_aliases_eq_ok_iff (noPreloads : manifest.preloads = [])
    (noMain : manifest.main = none) :
    manifest.apply files linker = .ok none after ↔
      manifest.aliases.forM applyAlias (manifest.applyShadowing linker) = .ok () after := by
  rw [apply_eq_aliases noPreloads noMain, bind_eq_ok_iff]
  constructor
  · rintro ⟨_, _, success, ⟨⟩⟩
    exact success
  · intro success
    exact ⟨_, _, success, rfl⟩

theorem apply_aliases_eq_error_iff (noPreloads : manifest.preloads = [])
    (noMain : manifest.main = none) {error : ManifestError} :
    manifest.apply files linker = .error error after ↔
      manifest.aliases.forM applyAlias (manifest.applyShadowing linker) = .error error after := by
  rw [apply_eq_aliases noPreloads noMain, bind_eq_error_iff]
  constructor
  · rintro (failed | ⟨_, _, _, ⟨⟩⟩)
    exact failed
  · exact Or.inl

theorem applyShadowing_reads {store : StoreId} (sound : Linker.Sound store linker)
    (manifest : Manifest) :
    Linker.Reads linker.store ((manifest.allowShadowing.map Shadowing.ofBool).getD linker.shadowing)
      (manifest.applyShadowing linker) (fun key => linker.get? key.1 key.2) := by
  unfold applyShadowing
  cases manifest.allowShadowing with
  | none => exact ⟨fun _ => rfl, fun _ _ found => sound.bindable_of_get? found, rfl, rfl⟩
  | some allowed => exact ⟨fun _ => rfl, fun _ _ found => sound.bindable_of_get? found, rfl, rfl⟩

theorem applyAliases_alongside (store : Store) (shadowing : Shadowing) (copies : List Alias) :
    Alongside (Linker.Reads store shadowing) Eq (copies.forM applyAlias)
      (Bindings.assignAll shadowing copies) :=
  alongside_forM applyAlias_alongside copies

theorem applyAliases_eq_error_iff {store : Store} {shadowing : Shadowing} {table : Bindings}
    (reads : linker.Reads store shadowing table) {copies : List Alias} {error : ManifestError} :
    copies.forM applyAlias linker = .error error after ↔
      ∃ earlier copy later, copies = earlier ++ copy :: later ∧
        earlier.forM applyAlias linker = .ok () after ∧ AliasFault after copy error := by
  -- What a prefix leads to reads as a table again, so its aliases fail for the known reasons.
  have reached_reads : ∀ {earlier : List Alias} {reached : Linker},
      earlier.forM applyAlias linker = .ok () reached →
      ∃ later, reached.Reads store shadowing later := by
    intro earlier reached success
    have both := applyAliases_alongside store shadowing earlier linker table reads
    rw [success] at both
    generalize Bindings.assignAll shadowing earlier table = result at both
    cases both with
    | ok related => exact ⟨_, related⟩
  rw [forM_eq_error_iff]
  constructor
  · rintro ⟨earlier, copy, later, reached, split, chain, failed⟩
    have success : earlier.forM applyAlias linker = .ok () reached := forM_eq_ok_iff.mpr chain
    obtain ⟨_, readsReached⟩ := reached_reads success
    obtain ⟨rfl, fault⟩ := (applyAlias_eq_error_iff readsReached).mp failed
    exact ⟨earlier, copy, later, split, success, fault⟩
  · rintro ⟨earlier, copy, later, split, success, fault⟩
    obtain ⟨_, readsReached⟩ := reached_reads success
    exact ⟨earlier, copy, later, after, split, forM_eq_ok_iff.mp success,
      (applyAlias_eq_error_iff readsReached).mpr ⟨rfl, fault⟩⟩

/-- On every linker that a run leads to, a manifest with aliases only does what the assignments do
over the table of its bindings, under the setting that it gives or finds: it succeeds or fails with
them, and leaves the same table, the same handles in it, the setting and the store. It fails exactly
if the aliases up to some point succeed and the next one has an unbound source, or else a key that
may not be bound again, and it leaves what they have left. It has no type errors. -/
theorem aliases_assign_in_order (store : Store) (engine : Engine)
    (operations : List Linker.Operation) (files : FileSystem) (manifest : Manifest)
    (noPreloads : manifest.preloads = []) (noMain : manifest.main = none) :
    let linker := (Linker.new store engine).run operations
    let shadowing := (manifest.allowShadowing.map Shadowing.ofBool).getD linker.shadowing
    Matched (Linker.Reads linker.store shadowing) Eq (manifest.apply files linker)
      ((do Bindings.assignAll shadowing manifest.aliases; pure none :
        EStateM ManifestError Bindings (Option Instance)) fun key => linker.get? key.1 key.2) ∧
    (∀ error after, manifest.apply files linker = .error error after ↔
      ∃ earlier copy later, manifest.aliases = earlier ++ copy :: later ∧
        { manifest with aliases := earlier }.apply files linker = .ok none after ∧
        AliasFault after copy error) ∧
    ∀ error after, manifest.apply files linker = .error (.link error) after →
      error.isTypeError = false := by
  intro linker shadowing
  have reads := applyShadowing_reads (Linker.run_sound store engine operations) manifest
  have fails_iff : ∀ error after, manifest.apply files linker = .error error after ↔
      ∃ earlier copy later, manifest.aliases = earlier ++ copy :: later ∧
        { manifest with aliases := earlier }.apply files linker = .ok none after ∧
        AliasFault after copy error := by
    intro error after
    rw [apply_aliases_eq_error_iff noPreloads noMain, applyAliases_eq_error_iff reads]
    -- The aliases up to some point are a manifest of the same kind.
    refine exists_congr fun earlier => exists_congr fun copy => exists_congr fun later => ?_
    have upTo : { manifest with aliases := earlier }.apply files linker = .ok none after ↔
        earlier.forM applyAlias (manifest.applyShadowing linker) = .ok () after :=
      @apply_aliases_eq_ok_iff files { manifest with aliases := earlier } linker after
        noPreloads noMain
    exact and_congr_right fun _ => and_congr_left fun _ => upTo.symm
  refine ⟨?_, fails_iff, ?_⟩
  · rw [apply_eq_aliases noPreloads noMain]
    exact alongside_bind (applyAliases_alongside linker.store shadowing manifest.aliases)
      (fun _ => alongside_pure none) _ _ reads
  · intro error after failed
    obtain ⟨_, _, _, _, _, fault⟩ := (fails_iff _ _).mp failed
    generalize wrapped : ManifestError.link error = whole at fault
    cases fault with
    | dangling _ => cases wrapped
    | taken _ _ _ =>
        cases wrapped
        rfl

/-- A key is copied from another alias and keeps the function when that alias gets another one.
Where redefinitions are refused the second alias to one key fails. An alias whose source is unbound
is dangling, although its own key is bound as well. -/
theorem aliases_of_replaced_source :
    let func : Extern := ⟨0, .func ⟨0, ⟨[], []⟩⟩⟩
    let other : Extern := ⟨0, .func ⟨1, ⟨[], []⟩⟩⟩
    let linker := (Linker.new { id := 0 }).run
      [.onStore (.newFunc ⟨⟨[], []⟩, .host "f" (.values [])⟩),
        .onStore (.newFunc ⟨⟨[], []⟩, .host "g" (.values [])⟩),
        .define "lib" "f" func, .define "lib" "g" other]
    let files : FileSystem := fun _ => .error .notFound
    let copyF : Alias := ⟨"env", "a", "lib", "f"⟩
    let copyG : Alias := ⟨"env", "a", "lib", "g"⟩
    let chain : Alias := ⟨"env", "b", "env", "a"⟩
    let unbound : Alias := ⟨"lib", "g", "env", "c"⟩
    let replacing : Manifest :=
      { allowShadowing := some true, aliases := [copyF, chain, copyG] }
    let colliding : Manifest := { aliases := [copyF, copyG] }
    let dangling : Manifest := { aliases := [copyF, unbound] }
    (∃ after, replacing.apply files linker = .ok none after ∧
      after.get? "env" "a" = some other ∧ after.get? "env" "b" = some func) ∧
    (∃ after, colliding.apply files linker =
        .error (.link (.duplicateDefinition "env" "a")) after ∧
      LinkError.isTypeError (.duplicateDefinition "env" "a") = false) ∧
    ∃ after, dangling.apply files linker = .error (.danglingAlias unbound) after ∧
      after.get? "env" "a" = some func ∧ after.get? "lib" "g" = some other := by
  intro func other linker files copyF copyG chain unbound replacing colliding dangling
  have settled (manifest : Manifest) (noPreloads : manifest.preloads = [])
      (noMain : manifest.main = none) :=
    aliases_assign_in_order { id := 0 } .interpreter
      [.onStore (.newFunc ⟨⟨[], []⟩, .host "f" (.values [])⟩),
        .onStore (.newFunc ⟨⟨[], []⟩, .host "g" (.values [])⟩),
        .define "lib" "f" func, .define "lib" "g" other] files manifest noPreloads noMain
  obtain ⟨assigned, _⟩ := settled replacing rfl rfl
  obtain ⟨_, collides, typed⟩ := settled colliding rfl rfl
  obtain ⟨_, dangles, _⟩ := settled dangling rfl rfl
  refine ⟨?_, ?_, ?_⟩
  · generalize replacing.apply files linker = result at assigned
    cases assigned with
    | ok reads => exact ⟨_, rfl, reads.bindings ("env", "a"), reads.bindings ("env", "b")⟩
  · have failed := (collides _ _).mpr ⟨[copyF], copyG, [], rfl, rfl, .taken rfl rfl rfl⟩
    exact ⟨_, failed, typed _ _ failed⟩
  · have failed := (dangles _ _).mpr ⟨[copyF], unbound, [], rfl, rfl, .dangling rfl⟩
    exact ⟨_, failed, rfl, rfl⟩

end Manifest

end Linkage
