import Linkage.Manifest.Basic
import Linkage.Number.Decimal

/-!
Failures of the commands: a cause and the contexts that were put around it on the way out. A cause
may have another one under it. The exit status tells traps and link errors from all other failures
and depends on the cause alone.
-/

namespace Linkage

inductive Cause where
  | message (text : String)
  | type (error : TypeError)
  | link (error : LinkError)
  | instantiation (error : InstantiationError)
  | manifest (error : ManifestError)
  | read (error : ReadError)
  | compilation (text : String)
  | integer (fault : Number.IntegerFault)
  | float (fault : Number.FloatFault)
  | missingExport (name : String)
  | exportKind
  | trap (cause : Trap)
  deriving DecidableEq, Repr

namespace Cause

def text : Cause → String
  | .message text => text
  | .type error => error.message
  | .link error => error.message
  | .instantiation error => error.message
  | .manifest error => error.message
  | .read error => error.message
  | .compilation text => text
  | .integer fault => fault.message
  | .float fault => fault.message
  | .missingExport name => "Missing export " ++ name
  | .exportKind => "Incompatible Export Type"
  | .trap cause => cause.errorText

/-- The cause under a cause. An error that only wraps another one shows itself as that one and so
has nothing under it but what the inner one has. -/
def under? : Cause → Option Cause
  | .manifest (.unreadable _ error) => some (.read error)
  | .manifest (.uncompilable _ text) => some (.compilation text)
  | .manifest (.instantiation _ error) => some (.instantiation error)
  | .trap (.host text) => some (.message text)
  | _ => none

def chain (cause : Cause) : List Cause :=
  cause :: cause.under?.toList

end Cause

def exitFailure : Nat := 1
def exitLinkError : Nat := 2
def exitTrap : Nat := 3

def LinkError.exitCode (error : LinkError) : Nat :=
  if error.isTypeError then exitFailure else exitLinkError

def InstantiationError.exitCode : InstantiationError → Nat
  | .trap _ => exitTrap
  | .link error => error.exitCode
  | .engine _ => exitFailure

def Cause.exitCode? : Cause → Option Nat
  | .instantiation error => some error.exitCode
  | .link error => some error.exitCode
  | .manifest (.link error) => some error.exitCode
  | .manifest (.instantiation _ error) => some error.exitCode
  | _ => none

structure Failure where
  contexts : List String
  cause : Cause
  deriving DecidableEq, Repr

namespace Failure

def of (cause : Cause) : Failure := ⟨[], cause⟩

def within (context : String) (failure : Failure) : Failure :=
  { failure with contexts := context :: failure.contexts }

def texts (failure : Failure) : List String :=
  failure.contexts ++ failure.cause.chain.map Cause.text

/-- The first cause of the chain that decides a status gives it. -/
def exitCode (failure : Failure) : Nat :=
  (failure.cause.chain.findSome? Cause.exitCode?).getD exitFailure

/-- A text set in by the width of a mark, which stands before its first line. -/
def setIn (mark blank : List Char) (text : String) : String :=
  String.ofList (mark ++ text.toList.flatMap fun char =>
    if char = '\n' then '\n' :: blank else [char])

def causeTexts (causes : List String) : List String :=
  let blank (width : Nat) := List.replicate width ' '
  if causes.length ≤ 1 then causes.map (setIn (blank 4) (blank 4))
  else causes.mapIdx fun index text =>
    let number := Nat.toDigits 10 index
    setIn (blank (5 - number.length) ++ number ++ [':', ' ']) (blank 7) text

def report (failure : Failure) : String :=
  match failure.texts with
  | [] => "error: "
  | [only] => "error: " ++ only
  | first :: causes =>
      "error: " ++ "\n".intercalate ([first, "", "Caused by:"] ++ causeTexts causes)

end Failure

end Linkage
