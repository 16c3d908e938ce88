import Linkage.Error
import Linkage.Named

/-!
The registry of bindings. Names are grouped by module, so a key is a pair and its two halves never
mix. Keys are compared exactly. A binding is never removed; it is replaced only when shadowing is
allowed.
-/

namespace Linkage

inductive Shadowing where
  | reject
  | allow
  deriving DecidableEq, Repr, Inhabited

def Shadowing.ofBool (allowed : Bool) : Shadowing :=
  if allowed then .allow else .reject

def Shadowing.name : Shadowing → String
  | .reject => "Reject"
  | .allow => "Allow"

structure Namespace where
  groups : List (String × List (String × Extern))
  deriving DecidableEq, Repr

namespace Namespace

def empty : Namespace := ⟨[]⟩

def group (ns : Namespace) (module : String) : List (String × Extern) :=
  (ns.groups.lookup module).getD []

def get? (ns : Namespace) (module name : String) : Option Extern :=
  (ns.group module).lookup name

def contains (ns : Namespace) (module name : String) : Bool :=
  (ns.get? module name).isSome

def containsNamespace (ns : Namespace) (module : String) : Bool :=
  !(ns.group module).isEmpty

/-- Binds a key whatever it was bound to before. -/
def put (ns : Namespace) (module name : String) (value : Extern) : Namespace :=
  ⟨putNamed module (putNamed name value (ns.group module)) ns.groups⟩

theorem get?_put_self (ns : Namespace) (module name : String) (value : Extern) :
    (ns.put module name value).get? module name = some value := by
  simp [get?, group, put, lookup_putNamed_self]

theorem get?_put_of_ne (ns : Namespace) {module name : String} {other : String × String}
    (differs : other ≠ (module, name)) (value : Extern) :
    (ns.put module name value).get? other.1 other.2 = ns.get? other.1 other.2 := by
  by_cases same : other.1 = module
  · have distinct : other.2 ≠ name := fun equal => differs (Prod.ext same equal)
    simp [get?, group, put, same, lookup_putNamed_self, lookup_putNamed_of_ne distinct]
  · simp [get?, group, put, lookup_putNamed_of_ne same]

/-- Binds a key and gives back the value it had. A bound key is refused unless shadowing is
allowed. -/
def insert (ns : Namespace) (module name : String) (value : Extern) (shadowing : Shadowing) :
    Except LinkError (Option Extern × Namespace) :=
  if shadowing = .reject ∧ ns.contains module name then
    .error (.duplicateDefinition module name)
  else .ok (ns.get? module name, ns.put module name value)

def bindings (ns : Namespace) : List (String × String × Extern) :=
  ns.groups.flatMap fun group => group.2.map fun binding => (group.1, binding.1, binding.2)

def size (ns : Namespace) : Nat :=
  ns.bindings.length

def isEmpty (ns : Namespace) : Bool :=
  ns.size == 0

def keyLE (a b : String × String) : Bool :=
  a.1 < b.1 || (a.1 == b.1 && a.2 ≤ b.2)

def keys (ns : Namespace) : List (String × String) :=
  ns.bindings.map fun binding => (binding.1, binding.2.1)

def sortedKeys (ns : Namespace) : List (String × String) :=
  ns.keys.mergeSort keyLE

def keyText (key : String × String) : String :=
  "(" ++ Text.quote key.1 ++ ", " ++ Text.quote key.2 ++ ")"

def text (ns : Namespace) : String :=
  "Namespace \x7b keys: [" ++ ", ".intercalate (ns.sortedKeys.map keyText) ++ "] \x7d"

end Namespace

end Linkage
