import Linkage.Program
import Linkage.Proofs.Moves

/-!
What the commands print. A command prints at its very end, when nothing can fail any more. So one
that fails has printed nothing, whichever of its steps has failed.
-/

namespace Linkage

def Shell.SamePrinted (first second : Shell) : Prop :=
  second.printed = first.printed

instance : Std.Refl Shell.SamePrinted := ⟨fun _ => rfl⟩

instance : Trans Shell.SamePrinted Shell.SamePrinted Shell.SamePrinted :=
  ⟨fun first second => second.trans first⟩

namespace Shell

theorem moves_link {ε α : Type} (asCause : ε → Cause) (action : Linking ε α) :
    Moves SamePrinted (link asCause action) := by
  intro shell
  rw [stateAfter, link]
  cases action shell.linker <;> rfl

theorem moves_call (func : FuncRef) (values : List Value) :
    Moves SamePrinted (call func values) := by
  intro shell
  rw [stateAfter, call]
  cases Exec.callFunc func values shell.linker.store <;> rfl

theorem moves_require {α : Type} (outcome : Except Failure α) :
    Moves SamePrinted (require outcome) := by
  intro shell
  cases outcome <;> rfl

theorem moves_preload (files : FileSystem) (wanted : Preload) :
    Moves SamePrinted (preload files wanted) := by
  apply moves_bind (moves_link _ _)
  intro m
  exact moves_bind (moves_adaptExcept (moves_link _ _) _) fun _ => moves_pure _

def Quiet {α : Type} (action : ShellAction α) : Prop :=
  ∀ shell failure after, action shell = .error failure after → after.printed = shell.printed

variable {α β : Type}

theorem quiet_of_moves {action : ShellAction α} (moves : Moves SamePrinted action) :
    Quiet action := by
  intro shell failure after failed
  have same := moves shell
  rwa [stateAfter_eq_of_error failed] at same

/-- What comes before the last step of an action must not print at all. -/
theorem quiet_bind {first : ShellAction α} {rest : α → ShellAction β}
    (moves : Moves SamePrinted first) (quiet : ∀ value, Quiet (rest value)) :
    Quiet (first >>= rest) := by
  intro shell failure after failed
  rcases bind_eq_error_iff.mp failed with early | ⟨value, middle, passed, late⟩
  · exact quiet_of_moves moves shell failure after early
  · have same := moves shell
    rw [stateAfter_eq_of_ok passed] at same
    exact (quiet value middle failure after late).trans same

theorem quiet_within {action : ShellAction α} (quiet : Quiet action) (context : String) :
    Quiet (within context action) := by
  intro shell failure after failed
  obtain ⟨inner, failed, -⟩ := adaptExcept_eq_error_iff.mp failed
  exact quiet shell inner after failed

theorem quiet_around {action : ShellAction α} (quiet : Quiet action) (span : TraceEntry) :
    Quiet (span.around emit action) := by
  intro shell failure after failed
  rw [TraceEntry.around] at failed
  cases outcome : action (emit span shell) with
  | ok value middle =>
      rw [outcome] at failed
      cases failed
  | error inner middle =>
      rw [outcome] at failed
      cases failed
      exact quiet (emit span shell) failure middle outcome

theorem quiet_print (lines : List String) : Quiet (print lines) := by
  intro shell failure after failed
  cases failed

theorem quiet_invoke (inst : Instance) (name : String) (args : List String) :
    Quiet (invoke inst name args) := by
  apply quiet_bind (moves_require _)
  intro ready
  exact quiet_bind (moves_call _ _) fun results => quiet_print _

theorem quiet_maybeInvoke (inst : Instance) (name : Option String) (args : List String) :
    Quiet (maybeInvoke inst name args) := by
  cases name with
  | none => exact quiet_of_moves (moves_pure ())
  | some name => exact quiet_invoke inst name args

end Shell

open Shell

theorem RunRequest.quiet_perform (files : FileSystem) (request : RunRequest) :
    Quiet (request.perform files) := by
  rw [RunRequest.perform]
  refine quiet_bind (moves_modify fun _ => rfl) ?_
  intro _
  apply quiet_bind (moves_forM (moves_preload files) _)
  intro _
  apply quiet_bind (moves_link _ _)
  intro m
  -- With stand-ins or without them, what follows is the same.
  have linked : Quiet (do
      let inst ← Shell.link .instantiation (Linker.instantiate m)
      modify fun shell => shell.emit (linkedEntry shell.linker.registry.size)
      Shell.maybeInvoke inst request.invoke request.args) := by
    apply quiet_bind (moves_link _ _)
    intro inst
    exact quiet_bind (moves_modify fun _ => rfl) fun _ => quiet_maybeInvoke inst _ _
  cases request.trapUnknownImports with
  | false => exact linked
  | true => exact quiet_bind (moves_link _ _) fun _ => linked

theorem ManifestRequest.quiet_perform (files : FileSystem) (request : ManifestRequest) :
    Quiet (request.perform files) := by
  apply quiet_bind (moves_link _ _)
  intro manifest
  apply quiet_bind (moves_link _ _)
  intro inst
  cases request.invoke with
  | none => exact quiet_of_moves (moves_pure ())
  | some name =>
      cases inst with
      | none => exact quiet_of_moves (moves_throw _)
      | some inst => exact quiet_invoke inst name request.args

theorem InspectRequest.quiet_perform (files : FileSystem) (request : InspectRequest) :
    Quiet (request.perform files) := by
  apply quiet_bind (moves_forM (moves_preload files) _)
  intro _
  apply quiet_bind (moves_link _ _)
  intro m
  exact quiet_bind (fun _ => rfl) fun shell => quiet_print _

theorem Request.quiet_execute (files : FileSystem) (request : Request) :
    Quiet (request.execute files) := by
  cases request with
  | run request =>
      exact quiet_within (quiet_around (request.quiet_perform files) RunRequest.span) _
  | manifest request => exact quiet_within (request.quiet_perform files) _
  | inspect request => exact quiet_within (request.quiet_perform files) _

theorem Request.output_of_failure {files : FileSystem} {request : Request} {engine : Engine}
    {failure : Failure} (failed : (request.report files engine).failure = some failure) :
    (request.report files engine).output = "" := by
  rw [Request.report] at *
  cases outcome : request.execute files (Shell.fresh engine) with
  | ok value after =>
      rw [outcome] at failed
      cases failed
  | error failure after =>
      have silent := request.quiet_execute files _ _ _ outcome
      simp only [Shell.output, silent]
      rfl

theorem output_of_exitCode {files : FileSystem} {filter : Option String} {words : List String}
    {engine : Engine} {output : String} {diagnostics : Diagnostics}
    (ran : runProgram files filter words engine = .ran output diagnostics)
    (failed : (runProgram files filter words engine).exitCode ≠ 0) : output = "" := by
  rw [ran, ProgramResult.exitCode] at failed
  rw [runProgram] at ran
  cases read : Invocation.read words with
  | error fault =>
      rw [read] at ran
      cases ran
  | ok invocation =>
      rw [read] at ran
      cases ran
      cases found : (invocation.request.report files engine).failure with
      | none => simp [found] at failed
      | some failure => exact Request.output_of_failure found

end Linkage
