import Linkage.Files.ReadError
import Linkage.Module
import Linkage.Path

/-!
File systems, as far as linking needs them: reading a file by its path. A file holds bytes or a
compilable module. An in-memory directory tree is one such file system. It is seen from the
working directory; what lies outside is taken to be directories without a name that could be
found.
-/

namespace Linkage

inductive FileContent where
  | bytes (data : ByteArray)
  | module (m : Module)

abbrev FileSystem := String → Except ReadError FileContent

namespace FileContent

/-- The text of a file. A module's own text starts with a parenthesis. -/
def text : FileContent → Except ReadError String
  | .bytes data =>
      match String.fromUTF8? data with
      | some text => .ok text
      | none => .error .notText
  | .module _ => .ok "(module)"

theorem text_bytes (text : String) : (FileContent.bytes text.toUTF8).text = .ok text := by
  have valid : text.toUTF8.IsValidUTF8 := text.isValidUTF8
  simp only [FileContent.text, String.fromUTF8?, dif_pos valid]
  rfl

def emptyModule : List UInt8 := [0x00, 0x61, 0x73, 0x6d, 0x01, 0x00, 0x00, 0x00]

def compile : FileContent → Option Module
  | .module m => some m
  | .bytes data => if data.toList = emptyModule then some {} else none

end FileContent

/-- A directory tree: directories and files by their components from the working directory. -/
structure FileTree where
  dirs : List (List String) := []
  files : List (List String × FileContent) := []

namespace FileTree

def isDir (tree : FileTree) (place : List String) : Bool :=
  place.isEmpty || tree.dirs.contains place

def file? (tree : FileTree) (place : List String) : Option FileContent :=
  tree.files.lookup place

/-- A place seen from the working directory: inside the tree, or so many levels above it. -/
inductive Place where
  | inside (components : List String)
  | above (levels : Nat)

def enter (tree : FileTree) (place : Place) (part : String) : Except ReadError Place :=
  if part = "" ∨ part = "." then .ok place
  else if 255 < part.utf8ByteSize then .error .nameTooLong
  else match place with
    | .above levels => if part = ".." then .ok (.above (levels + 1)) else .error .notFound
    | .inside components =>
        if part = ".." then
          .ok (if components.isEmpty then .above 1 else .inside components.dropLast)
        else
          let next := components ++ [part]
          if tree.isDir next ∨ (tree.file? next).isSome then .ok (.inside next)
          else .error .notFound

def walk (tree : FileTree) : Place → List String → Except ReadError Place
  | place, [] => .ok place
  | place, part :: rest => do
      match place with
      | .inside components =>
          if !tree.isDir components then throw ReadError.notADirectory
      | .above _ => pure ()
      let next ← tree.enter place part
      tree.walk next rest

/-- The longest path that the system takes, in bytes. -/
def pathLimit : Nat := 4095

def read (tree : FileTree) (path : String) : Except ReadError FileContent := do
  let chars := path.toList
  if chars.contains '\x00' then throw ReadError.nulInPath
  if chars.isEmpty then throw ReadError.notFound
  if pathLimit < path.utf8ByteSize then throw ReadError.nameTooLong
  let start := if Path.isAbsolute chars then Place.above 1 else Place.inside []
  match ← tree.walk start ((Path.split chars).map String.ofList) with
  | .above _ => throw ReadError.isADirectory
  | .inside components =>
      match tree.file? components with
      | some content => pure content
      | none => throw ReadError.isADirectory

def addDir (tree : FileTree) (place : List String) : FileTree :=
  if tree.isDir place then tree else { tree with dirs := tree.dirs ++ [place] }

def makeWay (tree : FileTree) (place : List String) : List String → FileTree × List String
  | [] => (tree, place)
  | part :: rest =>
      if part = "" ∨ part = "." then tree.makeWay place rest
      else if part = ".." then tree.makeWay place.dropLast rest
      else (tree.addDir (place ++ [part])).makeWay (place ++ [part]) rest

def addFile (tree : FileTree) (path : String) (content : FileContent) : FileTree :=
  let parts := (Path.split path.toList).map String.ofList
  let (made, place) := tree.makeWay [] parts.dropLast
  { made with files := (place ++ parts.getLast?.toList, content) :: made.files }

def addPath (tree : FileTree) (path : String) : FileTree :=
  (tree.makeWay [] ((Path.split path.toList).map String.ofList)).1

end FileTree

end Linkage
