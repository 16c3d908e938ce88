import Linkage.Instance
import Linkage.Text.Quoted

/-!
What the linker reports. A failure belongs to one of two phases: a link error says that the
registry could not satisfy or accept a binding, a trap says that the module itself failed while it
started. Type errors are the link errors that malformed input causes.
-/

namespace Linkage

open Text (quoteKey)

inductive TypeError where
  | unsupportedExtern (module name type : String)
  | foreignStore (module name : String)
  | manifest (message : String)
  deriving DecidableEq, Repr

inductive LinkError where
  | type (error : TypeError)
  | duplicateDefinition (module name : String)
  | unresolvedImport (module name : String) (expected : ExternType)
  | importTypeMismatch (module name : String) (expected found : ExternType)
  | importFailed (module name message : String)
  | engine (message : String)
  deriving DecidableEq, Repr

inductive InstantiationError where
  | link (error : LinkError)
  | trap (cause : Trap)
  | engine (message : String)
  deriving DecidableEq, Repr

def TypeError.message : TypeError → String
  | .unsupportedExtern module name type =>
      "cannot define " ++ quoteKey module name ++ ": unsupported extern kind " ++ type
  | .foreignStore module name =>
      "cannot define " ++ quoteKey module name ++ ": value belongs to a different store"
  | .manifest message => "invalid manifest: " ++ message

def TypeError.key : TypeError → Option (String × String)
  | .unsupportedExtern module name _ | .foreignStore module name => some (module, name)
  | .manifest _ => none

namespace LinkError

def message : LinkError → String
  | .type error => error.message
  | .duplicateDefinition module name => quoteKey module name ++ " is already defined"
  | .unresolvedImport module name expected =>
      "unknown import " ++ quoteKey module name ++ ": expected " ++ expected.text
  | .importTypeMismatch module name expected found =>
      "incompatible import type for " ++ quoteKey module name ++ ": expected " ++ expected.text
        ++ " but received " ++ found.text
  | .importFailed module name message =>
      "error while importing " ++ quoteKey module name ++ ": " ++ message
  | .engine message => "link error: " ++ message

/-- Whether malformed input is to blame rather than what the registry holds. -/
def isTypeError : LinkError → Bool
  | .type _ => true
  | _ => false

def key : LinkError → Option (String × String)
  | .type error => error.key
  | .duplicateDefinition module name
  | .unresolvedImport module name _
  | .importTypeMismatch module name _ _
  | .importFailed module name _ => some (module, name)
  | .engine _ => none

end LinkError

namespace InstantiationError

def message : InstantiationError → String
  | .link error => error.message
  | .trap cause => "start function trapped: " ++ cause.errorText
  | .engine message => "instantiation failed: " ++ message

def isTrap : InstantiationError → Bool
  | .trap _ => true
  | _ => false

def isLink : InstantiationError → Bool
  | .link _ => true
  | _ => false

end InstantiationError

def LinkError.ofImportFault (module name : String) : ImportFault → LinkError
  | .unknown expected => .unresolvedImport module name expected
  | .incompatible expected found => .importTypeMismatch module name expected found
  | .memory message => .importFailed module name (ImportFault.memory message).message

def InstantiationError.ofEngine : EngineError → InstantiationError
  | .atImport module name fault => .link (.ofImportFault module name fault)
  | .linkTrap cause =>
      .link (.engine ("RuntimeError occurred during linking: " ++ cause.errorText))
  | .resource message => .link (.engine ("Insufficient resources: " ++ message))
  | .start cause => .trap cause
  | .cpuFeature message => .engine ("missing required CPU features: " ++ Text.quote message)
  | .differentStores => .engine "cannot mix imports from different stores"
  | .differentArchitecture => .engine "incorrect OS or architecture"

end Linkage
