import Linkage.Linker.Instantiate
import Linkage.Files.FileSystem

/-!
Link manifests: the modules to register, the bindings to copy to other keys, the module to
instantiate last, and the shadowing setting to start with. Paths in a manifest are relative to the
directory that the manifest was read from.
-/

namespace Linkage

structure Preload where
  name : String
  path : String
  deriving DecidableEq, Repr

structure Alias where
  module : String
  name : String
  fromModule : String
  fromName : String
  deriving DecidableEq, Repr

structure Manifest where
  allowShadowing : Option Bool := none
  main : Option String := none
  preloads : List Preload := []
  aliases : List Alias := []
  baseDir : Option String := none
  deriving DecidableEq, Repr

inductive ManifestError where
  | unreadable (path : String) (error : ReadError)
  | uncompilable (path message : String)
  | danglingAlias (copy : Alias)
  | link (error : LinkError)
  | instantiation (path : String) (error : InstantiationError)
  deriving DecidableEq, Repr

namespace ManifestError

def message : ManifestError → String
  | .unreadable path _ => "unable to read " ++ path
  | .uncompilable path _ => "unable to compile " ++ path
  | .danglingAlias copy =>
      "alias " ++ Text.quoteKey copy.module copy.name ++ " refers to undefined "
        ++ Text.quoteKey copy.fromModule copy.fromName
  | .link error => error.message
  | .instantiation path _ => "unable to instantiate " ++ path

def ofType (error : TypeError) : ManifestError :=
  .link (.type error)

end ManifestError

namespace Manifest

def resolvePath (manifest : Manifest) (path : String) : String :=
  match manifest.baseDir with
  | some base =>
      if Path.isAbsolute path.toList then path
      else String.ofList (Path.join base.toList path.toList)
  | none => path

end Manifest

/-- Reads and compiles a file. The module is named after the file. -/
def FileSystem.load (files : FileSystem) (path : String) : Except ManifestError Module :=
  match files path with
  | .error error => .error (.unreadable path error)
  | .ok content =>
      match content.compile with
      | none => .error (.uncompilable path "Validation error: not a module")
      | some m =>
          .ok (match Path.fileStem? path.toList with
            | some stem => m.named (String.ofList stem)
            | none => m)

end Linkage
