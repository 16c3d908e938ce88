import Linkage.Manifest.Apply
import Linkage.Proofs.Stability

/-!
Applying a manifest as a sequence of stages: one for each preload, one for each alias and one for
the main module. A stage either adds all of its bindings or fails and adds none, so what a failed
application leaves is what the stages before the first failing one have bound. Later stages are
not started: nothing of what they would read or run has any say in the outcome.
-/

namespace Linkage

inductive Stage where
  | register (preload : Preload)
  | copy (copy : Alias)
  | main (path : String)
  deriving DecidableEq, Repr

namespace Manifest

def bindingStages (manifest : Manifest) : List Stage :=
  manifest.preloads.map .register ++ manifest.aliases.map .copy

def stages (manifest : Manifest) : List Stage :=
  manifest.bindingStages ++ manifest.main.toList.map .main

def stagePath? (manifest : Manifest) : Stage → Option String
  | .register preload => some (manifest.resolvePath preload.path)
  | .copy _ => none
  | .main path => some (manifest.resolvePath path)

variable (files : FileSystem) (manifest : Manifest)

inductive Commits : Stage → Linker → Linker → Prop where
  | register {preload : Preload} {m : Module} {inst : Instance} {before after : Linker}
      (loaded : files.load (manifest.resolvePath preload.path) = .ok m)
      (registered : Linker.register preload.name m
        (before.emit (preloadEntry preload (manifest.resolvePath preload.path)))
          = .ok inst after) :
      Commits (.register preload) before after
  | copy {copy : Alias} {value : Extern} {before after : Linker}
      (found : before.get? copy.fromModule copy.fromName = some value)
      (defined : Linker.define copy.module copy.name value before = .ok () after) :
      Commits (.copy copy) before after
  | main {path : String} {m : Module} {inst : Instance} {before after : Linker}
      (loaded : files.load (manifest.resolvePath path) = .ok m)
      (made : Linker.instantiate m before = .ok inst after) :
      Commits (.main path) before after

/-- A stage fails: its file cannot be read or does not compile, its module cannot be registered
or instantiated, its source is not bound, or its value cannot be defined. -/
inductive Fails : Stage → Linker → ManifestError → Linker → Prop where
  | unloaded {stage : Stage} {path : String} {error : ManifestError} {linker : Linker}
      (reads : manifest.stagePath? stage = some path) (failed : files.load path = .error error) :
      Fails stage linker error linker
  | unregistered {preload : Preload} {m : Module} {error : InstantiationError}
      {before after : Linker}
      (loaded : files.load (manifest.resolvePath preload.path) = .ok m)
      (failed : Linker.register preload.name m
        (before.emit (preloadEntry preload (manifest.resolvePath preload.path)))
          = .error error after) :
      Fails (.register preload) before
        (.instantiation (manifest.resolvePath preload.path) error) after
  | dangling {copy : Alias} {linker : Linker}
      (unbound : linker.get? copy.fromModule copy.fromName = none) :
      Fails (.copy copy) linker (.danglingAlias copy) linker
  | undefined {copy : Alias} {value : Extern} {error : LinkError} {before after : Linker}
      (found : before.get? copy.fromModule copy.fromName = some value)
      (failed : Linker.define copy.module copy.name value before = .error error after) :
      Fails (.copy copy) before (.link error) after
  | unmade {path : String} {m : Module} {error : InstantiationError} {before after : Linker}
      (loaded : files.load (manifest.resolvePath path) = .ok m)
      (failed : Linker.instantiate m before = .error error after) :
      Fails (.main path) before (.instantiation (manifest.resolvePath path) error) after

abbrev CommitsAll : List Stage → Linker → Linker → Prop :=
  Chain (Commits files manifest)

/-- All stages before `stage` have succeeded, which leads to `reached`, and there it fails. -/
structure FirstFailure (start : Linker) (done : List Stage) (stage : Stage) (reached : Linker)
    (error : ManifestError) (after : Linker) : Prop where
  next : ∃ rest, manifest.stages = done ++ stage :: rest
  committed : CommitsAll files manifest done start reached
  failed : Fails files manifest stage reached error after

variable {files : FileSystem} {manifest : Manifest}

def perform (files : FileSystem) (manifest : Manifest) : Stage → Linking ManifestError Unit
  | .register preload => manifest.applyPreload files preload
  | .copy copy => applyAlias copy
  | .main path => do
      let m ← settle (files.load (manifest.resolvePath path))
      let _ ← EStateM.adaptExcept (.instantiation (manifest.resolvePath path))
        (Linker.instantiate m)

section
variable {stage : Stage} {before after : Linker} {error : ManifestError}

theorem settle_bind_eq_ok_iff {α β : Type} {outcome : Except ManifestError α}
    {rest : α → Linking ManifestError β} {value : β} :
    (settle outcome >>= rest) before = .ok value after ↔
      ∃ found, outcome = .ok found ∧ rest found before = .ok value after := by
  cases outcome <;> simp [settle, bind, EStateM.bind]

theorem settle_bind_eq_error_iff {α β : Type} {outcome : Except ManifestError α}
    {rest : α → Linking ManifestError β} :
    (settle outcome >>= rest) before = .error error after ↔
      (outcome = .error error ∧ before = after) ∨
      ∃ found, outcome = .ok found ∧ rest found before = .error error after := by
  cases outcome <;> simp [settle, bind, EStateM.bind]

theorem perform_eq_ok_iff :
    manifest.perform files stage before = .ok () after ↔
      Commits files manifest stage before after := by
  constructor
  · intro success
    cases stage with
    | register preload =>
        obtain ⟨m, loaded, rest⟩ := settle_bind_eq_ok_iff.mp success
        rw [modify_bind] at rest
        obtain ⟨inst, registered⟩ := discarded_eq_ok_iff.mp rest
        exact .register loaded (adaptExcept_eq_ok_iff.mp registered)
    | copy copy =>
        cases found : before.get? copy.fromModule copy.fromName with
        | none =>
            simp only [perform, applyAlias, found] at success
            cases success
        | some value =>
            simp only [perform, applyAlias, found] at success
            exact .copy found (adaptExcept_eq_ok_iff.mp success)
    | main path =>
        obtain ⟨m, loaded, rest⟩ := settle_bind_eq_ok_iff.mp success
        obtain ⟨inst, made⟩ := discarded_eq_ok_iff.mp rest
        exact .main loaded (adaptExcept_eq_ok_iff.mp made)
  · intro commits
    cases commits with
    | register loaded registered =>
        refine settle_bind_eq_ok_iff.mpr ⟨_, loaded, ?_⟩
        rw [modify_bind]
        exact discarded_eq_ok_iff.mpr ⟨_, adaptExcept_eq_ok_iff.mpr registered⟩
    | copy found defined =>
        simp only [perform, applyAlias, found]
        exact adaptExcept_eq_ok_iff.mpr defined
    | main loaded made =>
        refine settle_bind_eq_ok_iff.mpr ⟨_, loaded, ?_⟩
        exact discarded_eq_ok_iff.mpr ⟨_, adaptExcept_eq_ok_iff.mpr made⟩

theorem perform_eq_error_iff :
    manifest.perform files stage before = .error error after ↔
      Fails files manifest stage before error after := by
  constructor
  · intro failure
    cases stage with
    | register preload =>
        rcases settle_bind_eq_error_iff.mp failure with ⟨unloaded, rfl⟩ | ⟨m, loaded, rest⟩
        · exact .unloaded rfl unloaded
        · rw [modify_bind] at rest
          have adapted := discarded_eq_error_iff.mp rest
          obtain ⟨inner, failed, rfl⟩ := adaptExcept_eq_error_iff.mp adapted
          exact .unregistered loaded failed
    | copy copy =>
        cases found : before.get? copy.fromModule copy.fromName with
        | none =>
            simp only [perform, applyAlias, found] at failure
            cases failure
            exact .dangling found
        | some value =>
            simp only [perform, applyAlias, found] at failure
            obtain ⟨inner, failed, rfl⟩ := adaptExcept_eq_error_iff.mp failure
            exact .undefined found failed
    | main path =>
        rcases settle_bind_eq_error_iff.mp failure with ⟨unloaded, rfl⟩ | ⟨m, loaded, rest⟩
        · exact .unloaded rfl unloaded
        · have adapted := discarded_eq_error_iff.mp rest
          obtain ⟨inner, failed, rfl⟩ := adaptExcept_eq_error_iff.mp adapted
          exact .unmade loaded failed
  · intro fails
    cases fails with
    | unloaded reads failed =>
        -- Reading a file is the first thing in each stage that reads one.
        cases stage with
        | register _ =>
            cases reads
            exact settle_bind_eq_error_iff.mpr (Or.inl ⟨failed, rfl⟩)
        | copy _ => cases reads
        | main _ =>
            cases reads
            exact settle_bind_eq_error_iff.mpr (Or.inl ⟨failed, rfl⟩)
    | unregistered loaded failed =>
        refine settle_bind_eq_error_iff.mpr (Or.inr ⟨_, loaded, ?_⟩)
        rw [modify_bind]
        exact discarded_eq_error_iff.mpr (adaptExcept_eq_error_iff.mpr ⟨_, failed, rfl⟩)
    | dangling unbound => simp only [perform, applyAlias, unbound]
    | undefined found failed =>
        simp only [perform, applyAlias, found]
        exact adaptExcept_eq_error_iff.mpr ⟨_, failed, rfl⟩
    | unmade loaded failed =>
        refine settle_bind_eq_error_iff.mpr (Or.inr ⟨_, loaded, ?_⟩)
        exact discarded_eq_error_iff.mpr (adaptExcept_eq_error_iff.mpr ⟨_, failed, rfl⟩)

end

/-- Applying a manifest is making its setting and then performing its stages in order. -/
theorem discard_apply (files : FileSystem) (manifest : Manifest) :
    (do let _ ← manifest.apply files : Linking ManifestError Unit) = (do
      modify manifest.applyShadowing
      manifest.stages.forM (manifest.perform files)) := by
  have mainStage : (do let _ ← manifest.applyMain files : Linking ManifestError Unit) =
      (manifest.main.toList.map Stage.main).forM (manifest.perform files) := by
    unfold applyMain
    cases manifest.main with
    | none => rfl
    | some path => simp [perform]
  -- One loop over all stages is the loops over preloads and over aliases and the main stage.
  simp only [apply, stages, bindingStages, bind_assoc, mainStage, List.forM_eq_forM,
    List.forM_append, List.forM_map]
  rfl

theorem apply_eq_ok_iff {linker after : Linker} :
    (∃ inst, manifest.apply files linker = .ok inst after) ↔
      CommitsAll files manifest manifest.stages (manifest.applyShadowing linker) after := by
  rw [← discarded_eq_ok_iff, discard_apply, modify_bind, forM_eq_ok_iff]
  simp only [perform_eq_ok_iff]

theorem apply_eq_error_iff {linker after : Linker} {error : ManifestError} :
    manifest.apply files linker = .error error after ↔ ∃ done stage reached,
      FirstFailure files manifest (manifest.applyShadowing linker) done stage reached error
        after := by
  rw [← discarded_eq_error_iff, discard_apply, modify_bind, forM_eq_error_iff]
  simp only [perform_eq_ok_iff, perform_eq_error_iff]
  constructor
  · rintro ⟨done, stage, rest, reached, split, committed, failed⟩
    exact ⟨done, stage, reached, ⟨rest, split⟩, committed, failed⟩
  · rintro ⟨done, stage, reached, ⟨rest, split⟩, committed, failed⟩
    exact ⟨done, stage, rest, reached, split, committed, failed⟩

theorem Commits.main_sameBindings {path : String} {before after : Linker}
    (commits : Commits files manifest (.main path) before after) :
    Linker.SameBindings before after := by
  cases commits with
  | @main _ m _ _ _ _ made =>
      have kept := Linker.instantiate_sameBindings m before
      rwa [stateAfter_eq_of_ok made] at kept

theorem CommitsAll.main_sameBindings {main : Option String} {before after : Linker}
    (commits : CommitsAll files manifest (main.toList.map .main) before after) :
    Linker.SameBindings before after := by
  cases main with
  | none =>
      cases commits
      exact ⟨rfl, rfl⟩
  | some path =>
      obtain _ | ⟨head, ⟨⟩⟩ := commits
      exact head.main_sameBindings

/-- A stage that fails binds nothing, whatever its module has run by then. -/
theorem Fails.sameBindings {stage : Stage} {before after : Linker} {error : ManifestError}
    (valid : ∀ preload, stage = .register preload → ∀ m,
      files.load (manifest.resolvePath preload.path) = .ok m → m.ValidExports)
    (fails : Fails files manifest stage before error after) :
    Linker.SameBindings before after := by
  cases fails with
  | unloaded _ _ => exact ⟨rfl, rfl⟩
  | @unregistered preload m _ _ _ loaded failed =>
      have kept := Linker.register_error_sameBindings (valid preload rfl m loaded) failed
      exact ⟨kept.registry, kept.shadowing⟩
  | dangling _ => exact ⟨rfl, rfl⟩
  | @undefined copy value _ _ _ _ failed =>
      have outcome := Linker.defined copy.module copy.name value before
      rw [failed] at outcome
      cases outcome with
      | foreign _ => exact ⟨rfl, rfl⟩
      | unsupported _ _ => exact ⟨rfl, rfl⟩
      | duplicate _ _ _ => exact ⟨rfl, rfl⟩
  | @unmade _ m _ _ _ _ failed =>
      have kept := Linker.instantiate_sameBindings m before
      rwa [stateAfter_eq_of_error failed] at kept

def SameFile (manifest : Manifest) (files other : FileSystem) (stage : Stage) : Prop :=
  ∀ path, manifest.stagePath? stage = some path → other path = files path

theorem load_of_sameFile {stage : Stage} {other : FileSystem} {path : String}
    (same : SameFile manifest files other stage) (reads : manifest.stagePath? stage = some path) :
    other.load path = files.load path := by
  simp only [FileSystem.load, same path reads]

theorem Commits.of_sameFile {stage : Stage} {other : FileSystem} {before after : Linker}
    (same : SameFile manifest files other stage)
    (commits : Commits files manifest stage before after) :
    Commits other manifest stage before after := by
  cases commits with
  | register loaded registered =>
      exact .register ((load_of_sameFile same rfl).trans loaded) registered
  | copy found defined => exact .copy found defined
  | main loaded made => exact .main ((load_of_sameFile same rfl).trans loaded) made

theorem Fails.of_sameFile {stage : Stage} {other : FileSystem} {before after : Linker}
    {error : ManifestError} (same : SameFile manifest files other stage)
    (fails : Fails files manifest stage before error after) :
    Fails other manifest stage before error after := by
  cases fails with
  | unloaded reads failed => exact .unloaded reads ((load_of_sameFile same reads).trans failed)
  | unregistered loaded failed =>
      exact .unregistered ((load_of_sameFile same rfl).trans loaded) failed
  | dangling unbound => exact .dangling unbound
  | undefined found failed => exact .undefined found failed
  | unmade loaded failed => exact .unmade ((load_of_sameFile same rfl).trans loaded) failed

theorem FirstFailure.of_sameFile {start reached after : Linker} {done : List Stage}
    {stage : Stage} {error : ManifestError} {other : FileSystem}
    (same : ∀ read ∈ done ++ [stage], SameFile manifest files other read)
    (failure : FirstFailure files manifest start done stage reached error after) :
    FirstFailure other manifest start done stage reached error after where
  next := failure.next
  committed := failure.committed.imp fun read member _ _ commits =>
    commits.of_sameFile (same read (List.mem_append_left _ member))
  failed := failure.failed.of_sameFile
    (same stage (List.mem_append_right done List.mem_cons_self))

theorem FirstFailure.mem_preloads {start reached after : Linker} {done : List Stage}
    {preload : Preload} {error : ManifestError}
    (failure : FirstFailure files manifest start done (.register preload) reached error after) :
    preload ∈ manifest.preloads := by
  obtain ⟨rest, split⟩ := failure.next
  have member : Stage.register preload ∈ manifest.stages := by
    rw [split]
    exact List.mem_append_right done List.mem_cons_self
  simpa [stages, bindingStages] using member

/-- Applying a manifest starts from the linker with the manifest's setting, if it gives one. It
succeeds exactly if all stages do, one after the other, and then the bindings are those of the
preload and alias stages. It fails exactly if some stage is the first to fail. Then the bindings
and the setting are those which the stages before it have led to, and whatever stands in the files
of later stages, the outcome is the same. -/
theorem apply_commits_whole_stages (files : FileSystem) (manifest : Manifest) (linker : Linker)
    (valid : ∀ preload ∈ manifest.preloads, ∀ m,
      files.load (manifest.resolvePath preload.path) = .ok m → m.ValidExports) :
    let start := manifest.applyShadowing linker
    (start.registry = linker.registry ∧
      start.shadowing = (manifest.allowShadowing.map Shadowing.ofBool).getD linker.shadowing ∧
      (stateAfter (manifest.apply files) linker).shadowing = start.shadowing) ∧
    (∀ after, (∃ inst, manifest.apply files linker = .ok inst after) ↔
      CommitsAll files manifest manifest.stages start after) ∧
    (∀ after, CommitsAll files manifest manifest.stages start after →
      ∃ reached, CommitsAll files manifest manifest.bindingStages start reached ∧
        Linker.SameBindings reached after) ∧
    (∀ error after, manifest.apply files linker = .error error after ↔
      ∃ done stage reached, FirstFailure files manifest start done stage reached error after) ∧
    (∀ done stage reached error after,
      FirstFailure files manifest start done stage reached error after →
      Linker.SameBindings reached after ∧
      ∀ other : FileSystem, (∀ read ∈ done ++ [stage], SameFile manifest files other read) →
        manifest.apply other linker = .error error after) := by
  intro start
  have setting : start.registry = linker.registry ∧
      start.shadowing = (manifest.allowShadowing.map Shadowing.ofBool).getD linker.shadowing := by
    simp only [start, applyShadowing]
    cases manifest.allowShadowing <;> exact ⟨rfl, rfl⟩
  have settled := (Linker.apply_steps files manifest linker).stable.shadowing
  refine ⟨⟨setting.1, setting.2, settled⟩, fun _ => apply_eq_ok_iff, ?_,
    fun _ _ => apply_eq_error_iff, ?_⟩
  · intro after commits
    obtain ⟨reached, bound, mainStage⟩ := Chain.append_iff.mp commits
    exact ⟨reached, bound, CommitsAll.main_sameBindings mainStage⟩
  · intro done stage reached error after failure
    refine ⟨failure.failed.sameBindings ?_, ?_⟩
    · rintro preload rfl m loaded
      exact valid preload failure.mem_preloads m loaded
    · intro other same
      exact apply_eq_error_iff.mpr ⟨done, stage, reached, failure.of_sameFile same⟩

/-- The start function of the second preload calls what the first one exports and traps then. What
is left is the first preload's binding and the setting, and neither the alias nor the file of the
main module has a say in it. -/
theorem apply_stops_at_trapping_preload :
    let library : Module := {
      funcs := [⟨⟨[], []⟩, [], []⟩]
      exports := [⟨"f", .function, 0⟩] }
    let trapping : Module := {
      imports := [⟨"a", "f", .func ⟨[], []⟩⟩]
      funcs := [⟨⟨[], []⟩, [], [.call 0, .unreachable]⟩]
      exports := [⟨"g", .function, 1⟩]
      start := some 1 }
    let files : FileSystem := fun path =>
      if path = "a.wat" then .ok (.module library)
      else if path = "b.wat" then .ok (.module trapping)
      else .error .notFound
    let manifest : Manifest := {
      allowShadowing := some true
      preloads := [⟨"a", "a.wat"⟩, ⟨"b", "b.wat"⟩]
      aliases := [⟨"env", "f", "a", "f"⟩]
      main := some "main.wat" }
    let linker := Linker.new { id := 0 }
    ∃ after, after.registry.keys = [("a", "f")] ∧ after.shadowing = .allow ∧
      ∀ other : FileSystem, other "a.wat" = files "a.wat" → other "b.wat" = files "b.wat" →
        manifest.apply other linker = .error (.instantiation "b.wat" (.trap .unreachable)) after := by
  intro library trapping files manifest linker
  have loadedLibrary : files.load "a.wat" = .ok library := rfl
  have loadedTrapping : files.load "b.wat" = .ok trapping := rfl
  have valid : ∀ preload ∈ manifest.preloads, ∀ m,
      files.load (manifest.resolvePath preload.path) = .ok m → m.ValidExports := by
    intro preload member m loaded
    rcases List.mem_pair.mp member with rfl | rfl
    · cases loadedLibrary.symm.trans loaded
      exact ⟨by decide, by decide⟩
    · cases loadedTrapping.symm.trans loaded
      exact ⟨by decide, by decide⟩
  obtain ⟨_, _, _, _, failing⟩ := apply_commits_whole_stages files manifest linker valid
  let entry (preload : Preload) := preloadEntry preload preload.path
  obtain ⟨inst, reached, after, registered, trapped, keys, shadowing⟩ :
      ∃ inst reached after,
        Linker.register "a" library
          ((manifest.applyShadowing linker).emit (entry ⟨"a", "a.wat"⟩)) = .ok inst reached ∧
        Linker.register "b" trapping (reached.emit (entry ⟨"b", "b.wat"⟩)) =
          .error (.trap .unreachable) after ∧
        reached.registry.keys = [("a", "f")] ∧ reached.shadowing = .allow :=
    ⟨_, _, _, rfl, rfl, rfl, rfl⟩
  have failure : FirstFailure files manifest (manifest.applyShadowing linker)
      [.register ⟨"a", "a.wat"⟩] (.register ⟨"b", "b.wat"⟩) reached
      (.instantiation "b.wat" (.trap .unreachable)) after :=
    ⟨⟨_, rfl⟩, .cons (.register loadedLibrary registered) (.nil _),
      .unregistered loadedTrapping trapped⟩
  obtain ⟨kept, independent⟩ := failing _ _ _ _ _ failure
  refine ⟨after, kept.registry ▸ keys, kept.shadowing.trans shadowing, ?_⟩
  intro other first second
  refine independent other ?_
  intro read member path reads
  rcases List.mem_pair.mp member with rfl | rfl
  · cases reads
    exact first
  · cases reads
    exact second

end Manifest

end Linkage
