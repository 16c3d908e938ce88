import Linkage.Command.Execute
import Linkage.Proofs.Alongside

/-!
One session in two commands. A manifest without aliases says what the options of `run` can say as
well. The command for manifests applies it to a linker in one go, the command `run` takes the same
steps by itself and puts other errors around the same faults. Whatever happens in between, both end
with one exit status and have printed the same lines.
-/

namespace Linkage

def Failure.SameStatus (left right : Failure) : Prop :=
  left.exitCode = right.exitCode

theorem Failure.exitCode_manifest_instantiation (path : String) (error : InstantiationError) :
    (Failure.of (.manifest (.instantiation path error))).exitCode =
      (Failure.of (.instantiation error)).exitCode :=
  rfl

namespace Shell

structure Alike (first second : Shell) : Prop where
  linker : Linker.SameButTrace first.linker second.linker
  printed : second.printed = first.printed

/-- On shells that are alike both actions give one value or fail with one status, and leave the
shells alike. -/
abbrev Agree {α : Type} (left right : ShellAction α) : Prop :=
  Alongside Alike Failure.SameStatus left right

theorem Alike.emit_right {first second : Shell} (alike : Alike first second)
    (entry : TraceEntry) : Alike first (second.emit entry) :=
  ⟨alike.linker.emit_right entry, alike.printed⟩

theorem agree_within_right {α : Type} {left right : ShellAction α} (context : String)
    (agree : Agree left right) : Agree left (within context right) :=
  alongside_adaptExcept_right (fun _ _ same => same) agree

theorem within_matched {α : Type} {left right : ShellAction α} {first second : Shell}
    (outer other : String)
    (matched : Matched Alike Failure.SameStatus (left first) (right second)) :
    Matched Alike Failure.SameStatus (within outer left first) (within other right second) := by
  have onLeft : Matched Alike Failure.SameStatus (within outer left first) (right second) :=
    matched.adaptExcept_left fun _ _ same => same
  exact onLeft.adaptExcept_right fun _ _ same => same

theorem agree_link {ε ε' α : Type} {errors : ε → ε' → Prop} {left : Linking ε α}
    {right : Linking ε' α} {asCause : ε → Cause} {asOther : ε' → Cause}
    (status : ∀ fault other, errors fault other →
      (Failure.of (asCause fault)).SameStatus (Failure.of (asOther other)))
    (actions : Alongside Linker.SameButTrace errors left right) :
    Agree (link asCause left) (link asOther right) := by
  intro first second alike
  have step := actions first.linker second.linker alike.linker
  simp only [link]
  generalize left first.linker = leftEnd at step
  generalize right second.linker = rightEnd at step
  cases step with
  | ok related => exact .ok ⟨related, alike.printed⟩
  | error faults related => exact .error (status _ _ faults) ⟨related, alike.printed⟩

theorem link_bind {ε α β : Type} (asCause : ε → Cause) (first : Linking ε α)
    (rest : α → Linking ε β) :
    link asCause (first >>= rest) = link asCause first >>= fun value =>
      link asCause (rest value) := by
  funext shell
  simp only [link, bind, EStateM.bind]
  cases first shell.linker with
  | ok value linker => rfl
  | error error linker => rfl

theorem link_pure {ε α : Type} (asCause : ε → Cause) (value : α) :
    link asCause (pure value : Linking ε α) = pure value :=
  rfl

theorem link_modify {ε : Type} (asCause : ε → Cause) (change : Linker → Linker) :
    link asCause (modify change : Linking ε PUnit) =
      modify fun shell => { shell with linker := change shell.linker } :=
  rfl

theorem link_forM {ε ι : Type} (asCause : ε → Cause) (action : ι → Linking ε PUnit)
    (items : List ι) :
    link asCause (items.forM action) = items.forM fun item => link asCause (action item) := by
  induction items with
  | nil => rfl
  | cons item rest ih => rw [List.forM, List.forM, link_bind, ih]

theorem agree_load (files : FileSystem) (path : String) :
    Agree (link .manifest (Manifest.settle (files.load path))) (load files path) := by
  have settled : Linker.Traceless (Manifest.settle (files.load path)) := by
    intro first second same
    cases files.load path with
    | ok m => exact .ok same
    | error error => exact .error rfl same
  refine agree_link ?_ settled
  rintro error _ rfl
  rfl

theorem agree_instantiation {α : Type} {action : Linking InstantiationError α}
    (traceless : Linker.Traceless action) (path : String) :
    Agree (link .manifest (EStateM.adaptExcept (.instantiation path) action))
      (link .instantiation action) := by
  have wrapped : Alongside Linker.SameButTrace
      (fun fault other => fault = ManifestError.instantiation path other)
      (EStateM.adaptExcept (ManifestError.instantiation path) action) action :=
    alongside_adaptExcept_left (fun _ _ same => congrArg _ same) traceless
  refine agree_link ?_ wrapped
  -- One side has the error itself as its cause, the other one has it under the manifest's error.
  rintro _ error rfl
  exact Failure.exitCode_manifest_instantiation path error

theorem agree_preload (files : FileSystem) (manifest : Manifest) (preload : Preload) :
    Agree (link .manifest (manifest.applyPreload files preload))
      (Shell.preload files ⟨preload.name, manifest.resolvePath preload.path⟩) := by
  rw [Manifest.applyPreload, link_bind]
  refine alongside_bind (agree_load files _) fun m => ?_
  rw [link_bind, link_modify]
  refine alongside_modify_left (fun _ _ alike => ⟨alike.linker.emit_left _, alike.printed⟩) ?_
  rw [link_bind]
  refine alongside_bind ?_ fun _ => alongside_pure ()
  exact agree_within_right _ (agree_instantiation (Linker.register_traceless _ m) _)

theorem agree_invoke (inst : Instance) (name : String) (args : List String) :
    Agree (invoke inst name args) (invoke inst name args) := by
  refine alongside_bind ?_ fun prepared => alongside_bind ?_ fun results => ?_
  · intro first second alike
    simp only [require]
    cases inst.prepareCall name args with
    | ok prepared => exact .ok alike
    | error failure => exact .error rfl alike
  · rintro first second ⟨⟨trace, same⟩, printed⟩
    -- The same store is called, so the outcomes are equal and so are the stores left.
    simp only [call, same]
    cases Exec.callFunc prepared.1 prepared.2 first.linker.store with
    | ok values store => exact .ok ⟨⟨trace, rfl⟩, printed⟩
    | error trap store => exact .error rfl ⟨⟨trace, rfl⟩, printed⟩
  · exact alongside_modify fun _ _ alike => ⟨alike.linker, by rw [alike.printed]⟩

theorem agree_maybeInvoke (inst : Instance) (name : Option String) (args : List String) :
    Agree (maybeInvoke inst name args) (maybeInvoke inst name args) := by
  cases name with
  | none => exact alongside_pure ()
  | some name => exact agree_invoke inst name args

end Shell

def Manifest.asRun (manifest : Manifest) (main : String) (invoke : Option String)
    (args : List String) : RunRequest where
  preloads := manifest.preloads.map fun preload =>
    ⟨preload.name, manifest.resolvePath preload.path⟩
  allowShadowing := manifest.allowShadowing.getD false
  trapUnknownImports := false
  invoke := invoke
  file := manifest.resolvePath main
  args := args

variable {files : FileSystem} {manifest : Manifest} {main : String}

/-- What a manifest with a main module and without aliases makes of a shell, after its setting. -/
def Manifest.session (files : FileSystem) (manifest : Manifest) (main : String)
    (invoke : Option String) (args : List String) : ShellAction Unit := do
  manifest.preloads.forM fun preload => Shell.link .manifest (manifest.applyPreload files preload)
  let path := manifest.resolvePath main
  let m ← Shell.link .manifest (Manifest.settle (files.load path))
  let inst ← Shell.link .manifest
    (EStateM.adaptExcept (.instantiation path) (Linker.instantiate m))
  Shell.maybeInvoke inst invoke args

theorem ManifestRequest.perform_eq {request : ManifestRequest}
    (parsed : Manifest.ofPath files request.file = .ok manifest)
    (noAliases : manifest.aliases = []) (hasMain : manifest.main = some main) :
    request.perform files = (do
      modify fun shell => { shell with linker := manifest.applyShadowing shell.linker }
      manifest.session files main request.invoke request.args) := by
  have settled : Shell.link .manifest (Manifest.settle (Manifest.ofPath files request.file)) =
      (pure manifest : ShellAction Manifest) := by
    rw [parsed]
    rfl
  rw [perform, settled, pure_bind, Manifest.apply, Manifest.applyMain, noAliases, hasMain]
  -- What is applied to the linker in one go is taken apart into actions on the shell.
  simp only [Shell.link_bind, Shell.link_modify, Shell.link_forM, Shell.link_pure, bind_assoc,
    pure_bind]
  cases request.invoke <;> rfl

theorem agree_session (files : FileSystem) (manifest : Manifest) (main : String)
    (invoke : Option String) (args : List String) :
    Shell.Agree (manifest.session files main invoke args) (do
      (manifest.asRun main invoke args).preloads.forM (Shell.preload files)
      let m ← Shell.load files (manifest.resolvePath main)
      let inst ← Shell.link .instantiation (Linker.instantiate m)
      modify fun shell => shell.emit (RunRequest.linkedEntry shell.linker.registry.size)
      Shell.maybeInvoke inst invoke args) := by
  have preloaded : Shell.Agree
      (manifest.preloads.forM fun preload =>
        Shell.link .manifest (manifest.applyPreload files preload))
      ((manifest.asRun main invoke args).preloads.forM (Shell.preload files)) := by
    simp only [Manifest.asRun, List.forM_eq_forM, List.forM_map]
    exact alongside_forM (Shell.agree_preload files manifest) manifest.preloads
  have instantiated (m : Module) :=
    Shell.agree_instantiation (Linker.instantiate_traceless m) (manifest.resolvePath main)
  refine alongside_bind preloaded fun _ => ?_
  refine alongside_bind (Shell.agree_load files _) fun m => ?_
  refine alongside_bind (instantiated m) fun inst => ?_
  refine alongside_modify_right (fun _ _ alike => alike.emit_right _) ?_
  exact Shell.agree_maybeInvoke inst invoke args

theorem report_eq_of_matched {left right : Request} {engine : Engine}
    (ends : Matched Shell.Alike Failure.SameStatus (left.execute files (Shell.fresh engine))
      (right.execute files (Shell.fresh engine))) :
    (left.report files engine).exitCode = (right.report files engine).exitCode ∧
      (left.report files engine).output = (right.report files engine).output := by
  simp only [Request.report]
  generalize left.execute files (Shell.fresh engine) = leftEnd at ends
  generalize right.execute files (Shell.fresh engine) = rightEnd at ends
  cases ends with
  | ok alike => exact ⟨rfl, by simp only [Shell.output, alike.printed]⟩
  | error faults alike => exact ⟨faults, by simp only [Shell.output, alike.printed]⟩

/-- The command for manifests and `run` agree on a manifest without aliases and with a main
module, if `run` gets the manifest's preloads, setting and main module: they end with the same
status and print the same. -/
theorem manifest_agrees_with_run (engine : Engine) (files : FileSystem) (file : String)
    (manifest : Manifest) (main : String) (invoke : Option String) (args : List String)
    (parsed : Manifest.ofPath files file = .ok manifest) (noAliases : manifest.aliases = [])
    (hasMain : manifest.main = some main) :
    let applied := (Request.manifest ⟨file, invoke, args⟩).report files engine
    let ran := (Request.run (manifest.asRun main invoke args)).report files engine
    applied.exitCode = ran.exitCode ∧ applied.output = ran.output := by
  apply report_eq_of_matched
  have opened (span : TraceEntry) : Shell.Alike
      { Shell.fresh engine with linker := manifest.applyShadowing (Shell.fresh engine).linker }
      { (Shell.fresh engine).emit span with
        linker := ((Shell.fresh engine).emit span).linker.allowShadowing
          (manifest.allowShadowing.getD false) } := by
    refine ⟨?_, rfl⟩
    simp only [Manifest.applyShadowing]
    -- A fresh linker refuses redefinitions, so a setting that is left out is the one for `false`.
    cases manifest.allowShadowing <;> exact ⟨[span], rfl⟩
  have performed : Matched Shell.Alike Failure.SameStatus
      (ManifestRequest.perform files ⟨file, invoke, args⟩ (Shell.fresh engine))
      ((manifest.asRun main invoke args).perform files
        ((Shell.fresh engine).emit RunRequest.span)) := by
    rw [ManifestRequest.perform_eq parsed noAliases hasMain]
    exact agree_session files manifest main invoke args _ _ (opened RunRequest.span)
  -- The span and the contexts around both sessions change neither a status nor what was printed.
  have spanned := Matched.around_right (fun entry _ _ alike => alike.emit_right entry) performed
  exact Shell.within_matched _ _ spanned

/-- A manifest in a directory of its own, whose main module passes on what it imports from a
preload. Its function is called through the manifest, and prints what it prints under `run`. -/
theorem manifest_prints_sum :
    let text := "main = 'main.wat'\npreload = [['math', 'math.wat']]"
    let binary : FuncType := ⟨[.i32, .i32], [.i32]⟩
    let library : Module := {
      funcs := [⟨binary, [], [.localGet 1, .localGet 0, .i32Add]⟩]
      exports := [⟨"add", .function, 0⟩] }
    let program : Module := {
      imports := [⟨"math", "add", .func binary⟩]
      exports := [⟨"sum", .function, 0⟩] }
    let files : FileSystem := fun path =>
      if path = "session/link.toml" then .ok (.bytes text.toUTF8)
      else if path = "session/math.wat" then .ok (.module library)
      else if path = "session/main.wat" then .ok (.module program)
      else .error .notFound
    let applied := (Request.manifest ⟨"session/link.toml", some "sum", ["2", "40"]⟩).report files
    applied.exitCode = 0 ∧ applied.output = "42\n" := by
  intro text binary library program files applied
  let manifest : Manifest := {
    main := some "main.wat"
    preloads := [⟨"math", "math.wat"⟩]
    baseDir := some "session" }
  have decoded : Manifest.ofText "main = 'main.wat'\npreload = [['math', 'math.wat']]" =
      .ok { manifest with baseDir := none } := by decide +kernel
  have read : (files "session/link.toml").bind FileContent.text = .ok text :=
    FileContent.text_bytes text
  have parsed : Manifest.ofPath files "session/link.toml" = .ok manifest := by
    have directory : (Path.parent? "session/link.toml".toList).map String.ofList =
        some "session" := by decide +kernel
    rw [Manifest.ofPath, read]
    simp only [text, decoded, directory]
    rfl
  obtain ⟨status, output⟩ := manifest_agrees_with_run .interpreter files "session/link.toml"
    manifest "main.wat" (some "sum") ["2", "40"] parsed rfl rfl
  let ran := (Request.run (manifest.asRun "main.wat" (some "sum") ["2", "40"])).report files
  have succeeded : ran.exitCode = 0 ∧ ran.output = "42\n" := by
    decide +kernel
  exact ⟨status.trans succeeded.1, output.trans succeeded.2⟩

end Linkage
