import Linkage.Manifest.Basic
import Linkage.Toml.Read
import Linkage.Number.Shortest

/-!
Reading a manifest from a TOML document. The keys of a table are taken in the order they stand in
and the first fault is reported; only then are missing keys looked for, in the order in which the
fields are declared. A record may also be written as an array of its fields, taken by position;
items beyond the needed ones are not looked at.
-/

namespace Linkage

def Toml.found : Toml → String
  | .string value => "string " ++ Text.quote value
  | .integer value => "integer `" ++ Number.showInt value ++ "`"
  | .float bits => "floating point `" ++ Number.showBinaryPointed .binary64 bits ++ "`"
  | .boolean value => "boolean `" ++ toString value ++ "`"
  | .array .. => "sequence"
  | .moment _ | .table .. => "map"

inductive ShapeFault where
  | wrongType (found : Toml) (wanted : String)
  | wrongLength (length : Nat) (wanted : String)
  | unknownField (name expected : String)
  | missingField (name : String)

def ShapeFault.message : ShapeFault → String
  | .wrongType found wanted => "invalid type: " ++ found.found ++ ", expected " ++ wanted
  | .wrongLength length wanted =>
      "invalid length " ++ toString length ++ ", expected " ++ wanted
  | .unknownField name expected => "unknown field `" ++ name ++ "`, expected " ++ expected
  | .missingField name => "missing field `" ++ name ++ "`"

namespace Manifest

abbrev Decoded := Except ShapeFault

def decodeBool : Toml → Decoded Bool
  | .boolean value => .ok value
  | other => .error (.wrongType other "a boolean")

def decodeString : Toml → Decoded String
  | .string value => .ok value
  | other => .error (.wrongType other "a string")

def decodePath : Toml → Decoded String
  | .string value => .ok value
  | other => .error (.wrongType other "path string")

structure PreloadFields where
  name : Option String := none
  path : Option String := none

def readPreloadField (fields : PreloadFields) (entry : String × Toml) : Decoded PreloadFields :=
  match entry.1 with
  | "name" => (decodeString entry.2).map fun name => { fields with name := some name }
  | "path" => (decodePath entry.2).map fun path => { fields with path := some path }
  | other => .error (.unknownField other "`name` or `path`")

def PreloadFields.finish (fields : PreloadFields) : Decoded Preload :=
  match fields.name, fields.path with
  | none, _ => .error (.missingField "name")
  | some _, none => .error (.missingField "path")
  | some name, some path => .ok ⟨name, path⟩

def preloadItems (items : List Toml) : Decoded Preload :=
  let short := ShapeFault.wrongLength items.length "struct Preload with 2 elements"
  match items with
  | [] => .error short
  | name :: rest => do
      let name ← decodeString name
      match rest with
      | [] => .error short
      | path :: _ => do
          let path ← decodePath path
          pure ⟨name, path⟩

/-- The key under which a moment of time presents itself where a record is wanted. -/
def momentKey : String := "$__toml_private_datetime"

def decodePreload : Toml → Decoded Preload
  | .table _ entries => do
      let fields ← entries.foldlM readPreloadField {}
      fields.finish
  | .array _ items => preloadItems items
  | .moment _ => .error (.unknownField momentKey "`name` or `path`")
  | other => .error (.wrongType other "struct Preload")

structure AliasFields where
  module : Option String := none
  name : Option String := none
  source : Option (String × String) := none

def decodePair : Toml → Decoded (String × String)
  | .array _ items =>
      let short := ShapeFault.wrongLength items.length "a tuple of size 2"
      match items with
      | [] => .error short
      | first :: rest => do
          let first ← decodeString first
          match rest with
          | [] => .error short
          | second :: _ => do
              let second ← decodeString second
              pure (first, second)
  | other => .error (.wrongType other "a tuple of size 2")

def readAliasField (fields : AliasFields) (entry : String × Toml) : Decoded AliasFields :=
  match entry.1 with
  | "module" => (decodeString entry.2).map fun module => { fields with module := some module }
  | "name" => (decodeString entry.2).map fun name => { fields with name := some name }
  | "from" => (decodePair entry.2).map fun source => { fields with source := some source }
  | other => .error (.unknownField other "one of `module`, `name`, `from`")

def AliasFields.finish (fields : AliasFields) : Decoded Alias :=
  match fields.module, fields.name, fields.source with
  | none, _, _ => .error (.missingField "module")
  | some _, none, _ => .error (.missingField "name")
  | some _, some _, none => .error (.missingField "from")
  | some module, some name, some source => .ok ⟨module, name, source.1, source.2⟩

def aliasItems (items : List Toml) : Decoded Alias :=
  let short := ShapeFault.wrongLength items.length "struct Alias with 3 elements"
  match items with
  | [] => .error short
  | module :: rest => do
      let module ← decodeString module
      match rest with
      | [] => .error short
      | name :: more => do
          let name ← decodeString name
          match more with
          | [] => .error short
          | source :: _ => do
              let source ← decodePair source
              pure ⟨module, name, source.1, source.2⟩

def decodeAlias : Toml → Decoded Alias
  | .table _ entries => do
      let fields ← entries.foldlM readAliasField {}
      fields.finish
  | .array _ items => aliasItems items
  | .moment _ => .error (.unknownField momentKey "one of `module`, `name`, `from`")
  | other => .error (.wrongType other "struct Alias")

def decodeList {α : Type} (decode : Toml → Decoded α) : Toml → Decoded (List α)
  | .array _ items => items.mapM decode
  | other => .error (.wrongType other "a sequence")

def topFields : String := "one of `allow_shadowing`, `main`, `preload`, `alias`"

def readField (manifest : Manifest) (entry : String × Toml) : Decoded Manifest :=
  match entry.1 with
  | "allow_shadowing" =>
      (decodeBool entry.2).map fun allowed => { manifest with allowShadowing := some allowed }
  | "main" => (decodePath entry.2).map fun path => { manifest with main := some path }
  | "preload" =>
      (decodeList decodePreload entry.2).map fun preloads => { manifest with preloads := preloads }
  | "alias" =>
      (decodeList decodeAlias entry.2).map fun aliases => { manifest with aliases := aliases }
  | other => .error (.unknownField other topFields)

/-- The manifest that a document describes. It has no base directory. -/
def ofToml : Toml → Decoded Manifest
  | .table _ entries => entries.foldlM readField {}
  | other => .error (.wrongType other "struct LinkManifest")

def brokenText : String := "<syntax>"

def ofText (text : String) : Except TypeError Manifest :=
  match Toml.read text with
  | none => .error (.manifest brokenText)
  | some tree =>
      match ofToml tree with
      | .error fault => .error (.manifest fault.message)
      | .ok manifest => .ok manifest

def ofPath (files : FileSystem) (path : String) : Except ManifestError Manifest :=
  match (files path).bind FileContent.text with
  | .error error => .error (.unreadable path error)
  | .ok text =>
      match ofText text with
      | .error error => .error (.ofType error)
      | .ok manifest =>
          .ok { manifest with baseDir := (Path.parent? path.toList).map String.ofList }

end Manifest

end Linkage
