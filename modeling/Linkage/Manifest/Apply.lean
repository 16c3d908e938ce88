import Linkage.Manifest.Decode

/-!
Applying a manifest to a linker: the shadowing setting first, then the preloads, then the aliases,
then the main module. The first step that fails ends it; what the steps before it defined stays
registered.
-/

namespace Linkage.Manifest

def settle {α : Type} (outcome : Except ManifestError α) : Linking ManifestError α := fun linker =>
  match outcome with
  | .ok value => .ok value linker
  | .error error => .error error linker

def preloadEntry (preload : Preload) (path : String) : TraceEntry :=
  ⟨.manifest, .debug, .event, "preloading",
    [("name", some (.written preload.name)), ("path", some (.written path))]⟩

def applyPreload (files : FileSystem) (manifest : Manifest) (preload : Preload) :
    Linking ManifestError Unit := do
  let path := manifest.resolvePath preload.path
  let m ← settle (files.load path)
  modify fun linker => linker.emit (preloadEntry preload path)
  let _ ← EStateM.adaptExcept (.instantiation path) (Linker.register preload.name m)

/-- Binds the value that the source key has now to the alias's own key. -/
def applyAlias (copy : Alias) : Linking ManifestError Unit := fun linker =>
  match linker.get? copy.fromModule copy.fromName with
  | none => .error (.danglingAlias copy) linker
  | some value =>
      EStateM.adaptExcept .link (Linker.define copy.module copy.name value) linker

def applyMain (files : FileSystem) (manifest : Manifest) : Linking ManifestError (Option Instance) :=
  match manifest.main with
  | none => pure none
  | some main => do
      let path := manifest.resolvePath main
      let m ← settle (files.load path)
      let inst ← EStateM.adaptExcept (.instantiation path) (Linker.instantiate m)
      pure (some inst)

def applyShadowing (manifest : Manifest) (linker : Linker) : Linker :=
  match manifest.allowShadowing with
  | some allowed => linker.allowShadowing allowed
  | none => linker

/-- Gives the instance of the main module, if the manifest names one. -/
def apply (files : FileSystem) (manifest : Manifest) : Linking ManifestError (Option Instance) := do
  modify manifest.applyShadowing
  manifest.preloads.forM (applyPreload files manifest)
  manifest.aliases.forM applyAlias
  applyMain files manifest

end Linkage.Manifest
