import Linkage.Manifest.Basic

/-!
What the commands are asked to do.
-/

namespace Linkage

structure RunRequest where
  preloads : List Preload := []
  allowShadowing : Bool := false
  trapUnknownImports : Bool := false
  invoke : Option String := none
  file : String
  args : List String := []
  deriving DecidableEq, Repr

structure ManifestRequest where
  file : String
  invoke : Option String := none
  args : List String := []
  deriving DecidableEq, Repr

structure InspectRequest where
  preloads : List Preload := []
  file : String
  deriving DecidableEq, Repr

inductive Request where
  | run (request : RunRequest)
  | manifest (request : ManifestRequest)
  | inspect (request : InspectRequest)
  deriving DecidableEq, Repr

/-- Reads `NAME=PATH`. The first equals sign ends the name, and the path may not be empty. -/
def Preload.read? (text : List Char) : Option Preload :=
  match text.dropWhile (· ≠ '=') with
  | _ :: first :: rest =>
      some ⟨String.ofList (text.takeWhile (· ≠ '=')), String.ofList (first :: rest)⟩
  | _ => none

def Preload.refusal (text : String) : String :=
  "expected NAME=PATH, got " ++ Text.quote text

end Linkage
