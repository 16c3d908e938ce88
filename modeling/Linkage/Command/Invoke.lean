import Linkage.Failure
import Linkage.Command.Request

/-!
Calling an exported function from the command line. Every argument has to convert to its
parameter's type before the function is called, and only what the finished call gives is printed.
-/

namespace Linkage

structure Shell where
  linker : Linker
  printed : List String

abbrev ShellAction := EStateM Failure Shell

namespace Shell

def fresh (engine : Engine := .interpreter) : Shell := ⟨Linker.new { id := 0 } engine, []⟩

def output (shell : Shell) : String :=
  String.join (shell.printed.map (· ++ "\n"))

def print (lines : List String) : ShellAction Unit :=
  modify fun shell => { shell with printed := shell.printed ++ lines }

def link {ε α : Type} (asCause : ε → Cause) (action : Linking ε α) : ShellAction α := fun shell =>
  match action shell.linker with
  | .ok value linker => .ok value { shell with linker := linker }
  | .error error linker => .error (.of (asCause error)) { shell with linker := linker }

def call (func : FuncRef) (args : List Value) : ShellAction (List Value) := fun shell =>
  match Exec.callFunc func args shell.linker.store with
  | .ok values store => .ok values { shell with linker := { shell.linker with store := store } }
  | .error trap store =>
      .error (.of (.trap trap)) { shell with linker := { shell.linker with store := store } }

def require {α : Type} (outcome : Except Failure α) : ShellAction α := fun shell =>
  match outcome with
  | .ok value => .ok value shell
  | .error failure => .error failure shell

def within {α : Type} (context : String) (action : ShellAction α) : ShellAction α :=
  EStateM.adaptExcept (Failure.within context) action

end Shell

def notA (text kind : String) (cause : Cause) : Failure :=
  ⟨[Text.quote text ++ " is not an " ++ kind], cause⟩

/-- Converts an argument to a parameter's type. Only numbers can be given. -/
def Value.ofArgument (text : String) : ValType → Except Failure Value
  | .i32 =>
      match Number.readSigned 32 text.toList with
      | .ok value => .ok (.i32 (BitVec.ofInt 32 value))
      | .error fault => .error (notA text "i32" (.integer fault))
  | .i64 =>
      match Number.readSigned 64 text.toList with
      | .ok value => .ok (.i64 (BitVec.ofInt 64 value))
      | .error fault => .error (notA text "i64" (.integer fault))
  | .f32 =>
      match Number.readBinary .binary32 text.toList with
      | .ok bits => .ok (.f32 (BitVec.ofNat 32 bits))
      | .error fault => .error (notA text "f32" (.float fault))
  | .f64 =>
      match Number.readBinary .binary64 text.toList with
      | .ok bits => .ok (.f64 (BitVec.ofNat 64 bits))
      | .error fault => .error (notA text "f64" (.float fault))
  | other => .error (.of (.message
      (other.text ++ " parameters cannot be passed from the command line")))

/-- Converts arguments by position, from `index` on, up to the first that does not convert. -/
def Value.ofArguments (name : String) (index : Nat) :
    List ValType → List String → Except Failure (List Value)
  | type :: types, text :: texts =>
      match Value.ofArgument text type with
      | .error failure =>
          .error (failure.within ("argument " ++ toString index ++ " of `" ++ name ++ "`"))
      | .ok value => (Value.ofArguments name (index + 1) types texts).map (value :: ·)
  | _, _ => .ok []

def Instance.exportedFunc (inst : Instance) (name : String) : Except Failure FuncRef :=
  let missing (cause : Cause) : Failure :=
    ⟨["no exported function named `" ++ name ++ "`"], cause⟩
  match inst.export? name with
  | none => .error (missing (.missingExport name))
  | some value =>
      match value.item with
      | .func ref => .ok ref
      | _ => .error (missing .exportKind)

def Instance.prepareCall (inst : Instance) (name : String) (args : List String) :
    Except Failure (FuncRef × List Value) := do
  let func ← inst.exportedFunc name
  let params := func.type.params
  if params.length ≠ args.length then
    throw (.of (.message ("`" ++ name ++ "` takes " ++ toString params.length
      ++ " argument(s) but " ++ toString args.length ++ " were given")))
  let values ← Value.ofArguments name 0 params args
  pure (func, values)

def Shell.invoke (inst : Instance) (name : String) (args : List String) : ShellAction Unit := do
  let (func, values) ← Shell.require (inst.prepareCall name args)
  let results ← Shell.call func values
  Shell.print (results.map Value.text)

end Linkage
