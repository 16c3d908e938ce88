import Mathlib.Data.List.Forall2
import Linkage.Proofs.Printing

/-!
Calling an export from the command line is all or nothing. The function is called once, with all
arguments converted, or not at all, and lines are printed only when the call has given its results.
What an invocation leaves is what that one call has left of the store, and of a function of the host
the store's own record tells how often and with what it was called. Since nothing else prints, a
command that fails has printed nothing.
-/

namespace Linkage

def Converts (parameter : ValType × String) (value : Value) : Prop :=
  Value.ofArgument parameter.2 parameter.1 = .ok value

instance (parameter : ValType × String) (value : Value) : Decidable (Converts parameter value) :=
  inferInstanceAs (Decidable (_ = _))

theorem Value.ofArguments_eq_ok_iff {name : String} {index : Nat} {types : List ValType}
    {texts : List String} {values : List Value} :
    Value.ofArguments name index types texts = .ok values ↔
      List.Forall₂ Converts (types.zip texts) values := by
  induction types generalizing index texts values with
  | nil => simp [Value.ofArguments, eq_comm]
  | cons type others ih =>
      cases texts with
      | nil => simp [Value.ofArguments, eq_comm]
      | cons text rest =>
          rw [List.zip_cons_cons, List.forall₂_cons_left_iff, Value.ofArguments]
          simp only [Converts, ← @ih (index + 1)]
          cases Value.ofArgument text type with
          | error fault => simp
          | ok value =>
              cases Value.ofArguments name (index + 1) others rest with
              | error fault => simp [Except.map]
              | ok more => simp [Except.map, eq_comm]

theorem Value.ofArguments_of_first_fault {name : String} {types : List ValType}
    {texts : List String} {before rest : List (ValType × String)} {parameter : ValType × String}
    {fault : Failure} (index : Nat) (split : types.zip texts = before ++ parameter :: rest)
    (fine : ∀ earlier ∈ before, ∃ value, Converts earlier value)
    (failed : Value.ofArgument parameter.2 parameter.1 = .error fault) :
    Value.ofArguments name index types texts =
      .error (fault.within ("argument " ++ toString (index + before.length) ++ " of `" ++ name
        ++ "`")) := by
  -- By induction on what stands before the fault: an argument that converts moves the index on.
  induction before generalizing index types texts with
  | nil =>
      obtain ⟨others, more, rfl, rfl, -⟩ := List.zip_eq_cons_iff.mp split
      simp [Value.ofArguments, failed]
  | cons first later ih =>
      obtain ⟨others, more, rfl, rfl, tail⟩ := List.zip_eq_cons_iff.mp split
      rw [List.forall_mem_cons] at fine
      obtain ⟨⟨value, converted⟩, fine⟩ := fine
      have later := ih (index + 1) tail.symm fine
      rw [Nat.add_right_comm, Nat.add_assoc] at later
      rw [Value.ofArguments, converted, later]
      rfl

/-- The name is that of an exported function, it takes as many arguments as there are, and these
convert to the values. -/
structure Callable (inst : Instance) (name : String) (args : List String) (func : FuncRef)
    (values : List Value) : Prop where
  exported : ∃ value, inst.export? name = some value ∧ value.item = .func func
  arity : func.type.params.length = args.length
  converted : List.Forall₂ Converts (func.type.params.zip args) values

variable {inst : Instance} {name : String} {args : List String} {func : FuncRef}
  {values : List Value}

theorem Instance.exportedFunc_eq_ok_iff :
    inst.exportedFunc name = .ok func ↔
      ∃ value, inst.export? name = some value ∧ value.item = .func func := by
  rw [Instance.exportedFunc]
  cases inst.export? name with
  | none => simp
  | some value => cases found : value.item <;> simp [found]

theorem Instance.prepareCall_of_arity (exported : inst.exportedFunc name = .ok func)
    (arity : func.type.params.length = args.length) :
    inst.prepareCall name args =
      (Value.ofArguments name 0 func.type.params args).map (func, ·) := by
  rw [Instance.prepareCall, exported]
  simp only [bind, Except.bind, arity, ne_eq, not_true_eq_false, if_false]
  cases Value.ofArguments name 0 func.type.params args <;> rfl

theorem Instance.arity_of_prepareCall (exported : inst.exportedFunc name = .ok func)
    {ready : FuncRef × List Value} (done : inst.prepareCall name args = .ok ready) :
    func.type.params.length = args.length := by
  by_contra arity
  rw [Instance.prepareCall, exported] at done
  simp [bind, Except.bind, arity, throw, throwThe, MonadExceptOf.throw] at done

theorem Instance.prepareCall_eq_ok_iff :
    inst.prepareCall name args = .ok (func, values) ↔ Callable inst name args func values := by
  constructor
  · intro done
    obtain ⟨ref, found, -⟩ := except_bind_eq_ok_iff.mp done
    have arity := Instance.arity_of_prepareCall found done
    rw [Instance.prepareCall_of_arity found arity, except_map_eq_ok_iff] at done
    obtain ⟨results, converted, ⟨⟩⟩ := done
    exact ⟨Instance.exportedFunc_eq_ok_iff.mp found, arity,
      Value.ofArguments_eq_ok_iff.mp converted⟩
  · rintro ⟨exported, arity, converted⟩
    rw [Instance.prepareCall_of_arity (Instance.exportedFunc_eq_ok_iff.mpr exported) arity,
      Value.ofArguments_eq_ok_iff.mpr converted]
    rfl

theorem Callable.unique {other : FuncRef} {others : List Value}
    (callable : Callable inst name args func values)
    (again : Callable inst name args other others) : other = func ∧ others = values := by
  have same := (Instance.prepareCall_eq_ok_iff.mpr again).symm.trans
    (Instance.prepareCall_eq_ok_iff.mpr callable)
  cases same
  exact ⟨rfl, rfl⟩

/-- What an invocation can come to. The one call has given its results, which have been printed, or
it has trapped; the store is as the call has left it. Or nothing was called and nothing has
changed. -/
inductive Invoked (inst : Instance) (name : String) (args : List String) (shell : Shell) :
    EStateM.Result Failure Shell Unit → Prop where
  | printed {func : FuncRef} {values results : List Value} {store : Store}
      (callable : Callable inst name args func values)
      (called : Exec.callFunc func values shell.linker.store = .ok results store) :
      Invoked inst name args shell (.ok ()
        { linker := { shell.linker with store := store }
          printed := shell.printed ++ results.map Value.text })
  | failed {func : FuncRef} {values : List Value} {trap : Trap} {store : Store}
      (callable : Callable inst name args func values)
      (called : Exec.callFunc func values shell.linker.store = .error trap store) :
      Invoked inst name args shell (.error (.of (.trap trap))
        { linker := { shell.linker with store := store }, printed := shell.printed })
  | refused (failure : Failure)
      (uncallable : ∀ func values, ¬ Callable inst name args func values) :
      Invoked inst name args shell (.error failure shell)

variable {shell : Shell}

theorem Shell.invoked (inst : Instance) (name : String) (args : List String) (shell : Shell) :
    Invoked inst name args shell (Shell.invoke inst name args shell) := by
  rw [Shell.invoke]
  simp only [bind, EStateM.bind]
  cases prepared : inst.prepareCall name args with
  | error failure =>
      apply Invoked.refused
      intro func values callable
      cases prepared.symm.trans (Instance.prepareCall_eq_ok_iff.mpr callable)
  | ok ready =>
      obtain ⟨func, values⟩ := ready
      have callable := Instance.prepareCall_eq_ok_iff.mp prepared
      simp only [Shell.require, Shell.call]
      cases called : Exec.callFunc func values shell.linker.store with
      | ok results store => exact .printed callable called
      | error trap store => exact .failed callable called

theorem Shell.invoke_eq_ok_iff :
    (∃ after, Shell.invoke inst name args shell = .ok () after) ↔
      ∃ func values results store, Callable inst name args func values ∧
        Exec.callFunc func values shell.linker.store = .ok results store := by
  have outcome := Shell.invoked inst name args shell
  generalize Shell.invoke inst name args shell = result at outcome
  cases outcome with
  | printed callable called => exact ⟨fun _ => ⟨_, _, _, _, callable, called⟩, fun _ => ⟨_, rfl⟩⟩
  | failed callable called =>
      refine ⟨nofun, ?_⟩
      rintro ⟨_, _, results, store, again, succeeded⟩
      obtain ⟨rfl, rfl⟩ := callable.unique again
      cases called.symm.trans succeeded
  | refused failure uncallable =>
      refine ⟨nofun, ?_⟩
      rintro ⟨func, values, _, _, callable, _⟩
      exact absurd callable (uncallable func values)

theorem Shell.store_invoke_of_callable (callable : Callable inst name args func values) :
    (stateAfter (Shell.invoke inst name args) shell).linker.store =
      stateAfter (Exec.callFunc func values) shell.linker.store := by
  have outcome := Shell.invoked inst name args shell
  rw [stateAfter]
  generalize Shell.invoke inst name args shell = result at outcome
  cases outcome with
  | printed again called =>
      obtain ⟨rfl, rfl⟩ := callable.unique again
      exact (stateAfter_eq_of_ok called).symm
  | failed again called =>
      obtain ⟨rfl, rfl⟩ := callable.unique again
      exact (stateAfter_eq_of_error called).symm
  | refused failure uncallable => exact absurd callable (uncallable func values)

theorem Shell.invoke_of_uncallable
    (uncallable : ∀ func values, ¬ Callable inst name args func values) :
    stateAfter (Shell.invoke inst name args) shell = shell := by
  have outcome := Shell.invoked inst name args shell
  rw [stateAfter]
  generalize Shell.invoke inst name args shell = result at outcome
  cases outcome with
  | printed callable called => exact absurd callable (uncallable _ _)
  | failed callable called => exact absurd callable (uncallable _ _)
  | refused failure uncallable => rfl

theorem Exec.answerCall_eq (type : FuncType) (args : List Value) (answer : HostAnswer)
    (store : Store) : stateAfter (answerCall type args answer) store = store := by
  have checkedKeeps (results : List Value) :
      stateAfter (answerCall.checked type results) store = store := by
    unfold answerCall.checked
    split <;> rfl
  cases answer with
  | trap message => rfl
  | echo => exact checkedKeeps args
  | values results => exact checkedKeeps results

theorem Exec.calls_of_host {store : Store} {type : FuncType} {host : String} {answer : HostAnswer}
    (found : store.funcs[func.address]? = some ⟨type, .host host answer⟩) (args : List Value) :
    (stateAfter (Exec.callFunc func args) store).calls = store.calls ++ [⟨host, args⟩] := by
  obtain ⟨depth, limit⟩ : ∃ depth, Exec.callDepth = depth + 1 := ⟨_, rfl⟩
  have recorded : stateAfter (Exec.callFunc func args) store =
      stateAfter (answerCall type args answer)
        { store with calls := store.calls ++ [⟨host, args⟩] } := by
    rw [stateAfter, Exec.callFunc, limit, Exec.invoke, get_bind, found]
    rfl
  rw [recorded, Exec.answerCall_eq]

theorem Shell.invoke_calls_host_iff {type : FuncType} {host : String} {answer : HostAnswer}
    (exported : ∃ value, inst.export? name = some value ∧ value.item = .func func)
    (found : shell.linker.store.funcs[func.address]? = some ⟨type, .host host answer⟩) :
    (stateAfter (Shell.invoke inst name args) shell).linker.store.calls =
        shell.linker.store.calls ++ [⟨host, values⟩] ↔
      Callable inst name args func values := by
  constructor
  · intro recorded
    by_cases callable : ∃ ref given, Callable inst name args ref given
    · obtain ⟨ref, given, callable⟩ := callable
      have same : ref = func := Except.ok.inj
        ((Instance.exportedFunc_eq_ok_iff.mpr callable.exported).symm.trans
          (Instance.exportedFunc_eq_ok_iff.mpr exported))
      subst same
      rw [Shell.store_invoke_of_callable callable, Exec.calls_of_host found] at recorded
      simp only [List.append_cancel_left_eq, List.cons.injEq, HostCall.mk.injEq, true_and,
        and_true] at recorded
      exact recorded ▸ callable
    · rw [Shell.invoke_of_uncallable fun ref given ready => callable ⟨ref, given, ready⟩] at recorded
      simp at recorded
  · intro callable
    rw [Shell.store_invoke_of_callable callable, Exec.calls_of_host found]

theorem Shell.invoke_of_first_fault {before rest : List (ValType × String)}
    {parameter : ValType × String} {fault : Failure} (shell : Shell)
    (exported : ∃ value, inst.export? name = some value ∧ value.item = .func func)
    (arity : func.type.params.length = args.length)
    (split : func.type.params.zip args = before ++ parameter :: rest)
    (fine : ∀ earlier ∈ before, ∃ value, Converts earlier value)
    (failed : Value.ofArgument parameter.2 parameter.1 = .error fault) :
    Shell.invoke inst name args shell =
      .error (fault.within ("argument " ++ toString before.length ++ " of `" ++ name ++ "`"))
        shell := by
  have prepared : inst.prepareCall name args = .error (fault.within
      ("argument " ++ toString before.length ++ " of `" ++ name ++ "`")) := by
    rw [Instance.prepareCall_of_arity (Instance.exportedFunc_eq_ok_iff.mpr exported) arity,
      Value.ofArguments_of_first_fault 0 split fine failed, Nat.zero_add]
    rfl
  rw [Shell.invoke, prepared]
  rfl

/-- An invocation comes to one of three ends. It succeeds if and only if the name is that of an
exported function, the arguments fit it in number and convert, and the one call with the converted
values gives results, which are then printed. A function of the host is called if and only if it
can be, and then once. Of arguments that do not convert the first is reported. A program that exits
with another status than 0 has printed nothing. -/
theorem invoke_all_or_nothing :
    (∀ (inst : Instance) (name : String) (args : List String) (shell : Shell),
      Invoked inst name args shell (Shell.invoke inst name args shell) ∧
      ((∃ after, Shell.invoke inst name args shell = .ok () after) ↔
        ∃ func values results store, Callable inst name args func values ∧
          Exec.callFunc func values shell.linker.store = .ok results store) ∧
      (∀ func type host answer,
        (∃ value, inst.export? name = some value ∧ value.item = .func func) →
        shell.linker.store.funcs[func.address]? = some ⟨type, .host host answer⟩ →
        ∀ values, (stateAfter (Shell.invoke inst name args) shell).linker.store.calls =
            shell.linker.store.calls ++ [⟨host, values⟩] ↔
          Callable inst name args func values) ∧
      ∀ func before parameter rest fault,
        (∃ value, inst.export? name = some value ∧ value.item = .func func) →
        func.type.params.length = args.length →
        func.type.params.zip args = before ++ parameter :: rest →
        (∀ earlier ∈ before, ∃ value, Converts earlier value) →
        Value.ofArgument parameter.2 parameter.1 = .error fault →
        Shell.invoke inst name args shell =
          .error (fault.within ("argument " ++ toString before.length ++ " of `" ++ name ++ "`"))
            shell) ∧
    ∀ files filter words engine output diagnostics,
      runProgram files filter words engine = .ran output diagnostics →
      (runProgram files filter words engine).exitCode ≠ 0 → output = "" := by
  constructor
  · intro inst name args shell
    refine ⟨Shell.invoked inst name args shell, Shell.invoke_eq_ok_iff, ?_, ?_⟩
    · exact fun func type host answer exported found values =>
        Shell.invoke_calls_host_iff exported found
    · exact fun func before parameter rest fault => Shell.invoke_of_first_fault shell
  · exact fun files filter words engine output diagnostics => output_of_exitCode

/-- A sum prints its one result, and a function of the host is called with the number it was given.
A text that is no number is reported before anything is called, and the program that was given it
prints nothing. -/
theorem invoke_sum :
    let binary : FuncType := ⟨[.i32, .i32], [.i32]⟩
    let unary : FuncType := ⟨[.i32], [.i32]⟩
    let body : List Instr := [.localGet 1, .localGet 0, .i32Add]
    let sum : FuncRef := ⟨0, binary⟩
    let echo : FuncRef := ⟨1, unary⟩
    let store : Store := {
      id := 0
      funcs := [⟨binary, .code [] body ⟨[], [], [], []⟩⟩, ⟨unary, .host "echo" .echo⟩] }
    let shell : Shell := ⟨Linker.new store, []⟩
    let inst : Instance := ⟨0, [("sum", ⟨0, .func sum⟩), ("echo", ⟨0, .func echo⟩)]⟩
    let program : Module := {
      funcs := [⟨binary, [], body⟩]
      exports := [⟨"sum", .function, 0⟩] }
    let files : FileSystem := fun path =>
      if path = "main.wat" then .ok (.module program) else .error .notFound
    let words (second : String) := ["run", "--invoke", "sum", "main.wat", "2", second]
    let output : ProgramResult → Option String
      | .usage _ => none
      | .ran output _ => some output
    (∃ after, Shell.invoke inst "sum" ["2", "40"] shell = .ok () after ∧
      after.printed = ["42"]) ∧
    (stateAfter (Shell.invoke inst "echo" ["7"]) shell).linker.store.calls =
      [⟨"echo", [.i32 7]⟩] ∧
    Shell.invoke inst "sum" ["2", "x"] shell =
      .error ⟨["argument 1 of `sum`", "\"x\" is not an i32"], .integer .invalidDigit⟩ shell ∧
    output (runProgram files none (words "40")) = some "42\n" ∧
    (runProgram files none (words "x")).exitCode = 1 ∧
    output (runProgram files none (words "x")) = some "" := by
  intro binary unary body sum echo store shell inst program files words output
  have two : Converts (.i32, "2") (.i32 2) := by decide +kernel
  have forty : Converts (.i32, "40") (.i32 40) := by decide +kernel
  have seven : Converts (.i32, "7") (.i32 7) := by decide +kernel
  have noNumber : Value.ofArgument "x" .i32 = .error (notA "x" "i32" (.integer .invalidDigit)) := by
    decide +kernel
  have sumExported : ∃ value, inst.export? "sum" = some value ∧ value.item = .func sum :=
    ⟨_, rfl, rfl⟩
  have echoExported : ∃ value, inst.export? "echo" = some value ∧ value.item = .func echo :=
    ⟨_, rfl, rfl⟩
  have status : (runProgram files none (words "x")).exitCode = 1 := by decide +kernel
  refine ⟨?_, ?_, ?_, by decide +kernel, status, ?_⟩
  · have callable : Callable inst "sum" ["2", "40"] sum [.i32 2, .i32 40] :=
      ⟨sumExported, rfl, .cons two (.cons forty .nil)⟩
    have called : Exec.callFunc sum [.i32 2, .i32 40] store = .ok [.i32 42] store := rfl
    obtain ⟨invoked, succeeds, -, -⟩ := invoke_all_or_nothing.1 inst "sum" ["2", "40"] shell
    obtain ⟨after, success⟩ := succeeds.mpr ⟨sum, _, _, _, callable, called⟩
    rw [success] at invoked
    cases invoked with
    | printed again calledAgain =>
        obtain ⟨rfl, rfl⟩ := callable.unique again
        cases called.symm.trans calledAgain
        exact ⟨_, success, by decide +kernel⟩
  · have callable : Callable inst "echo" ["7"] echo [.i32 7] :=
      ⟨echoExported, rfl, .cons seven .nil⟩
    obtain ⟨-, -, host, -⟩ := invoke_all_or_nothing.1 inst "echo" ["7"] shell
    exact (host echo unary "echo" .echo echoExported rfl _).mpr callable
  · obtain ⟨-, -, -, firstFault⟩ := invoke_all_or_nothing.1 inst "sum" ["2", "x"] shell
    have refused := firstFault sum [(.i32, "2")] (.i32, "x") [] _ sumExported rfl rfl
      (by simpa using ⟨_, two⟩) noNumber
    have reported : (notA "x" "i32" (.integer .invalidDigit)).within
        ("argument " ++ toString [(ValType.i32, "2")].length ++ " of `" ++ "sum" ++ "`") =
        ⟨["argument 1 of `sum`", "\"x\" is not an i32"], .integer .invalidDigit⟩ := by
      decide +kernel
    rw [refused, reported]
  · cases ran : runProgram files none (words "x") with
    | usage fault =>
        rw [ran] at status
        cases fault <;> cases status
    | ran printed diagnostics =>
        have failed : (runProgram files none (words "x")).exitCode ≠ 0 := by simp [status]
        cases invoke_all_or_nothing.2 files none (words "x") .interpreter printed diagnostics ran
          failed
        rfl

end Linkage
