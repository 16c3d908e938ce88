import Linkage.Command.Execute
import Linkage.Proofs.Resolution
import Linkage.Proofs.Run

/-!
Three views of a module's imports. Inspecting a module shows a word for each import, a list tells
the imports without a binding, and resolving stops at the first import that nothing fits. Each of
the three looks up the keys and compares the types on its own. The words that are shown tell what
the other two give.
-/

namespace Linkage

namespace Linker

section
variable {linker : Linker} {i : Import}

theorem status_eq_unresolved_iff :
    linker.status i = .unresolved ↔ linker.get? i.module i.name = none := by
  unfold status
  cases linker.get? i.module i.name with
  | none => simp
  | some value =>
      by_cases compatible : linker.compatible i.type value = true <;> simp [compatible]

theorem status_eq_bound_iff : linker.status i = .bound ↔ ∃ value, linker.Fits i value := by
  constructor
  · intro bound
    unfold status at bound
    cases found : linker.get? i.module i.name with
    | none => simp [found] at bound
    | some value =>
        by_cases compatible : linker.compatible i.type value = true
        · exact ⟨value, found, compatible⟩
        · simp [found, compatible] at bound
  · rintro ⟨value, found, compatible⟩
    simp [status, found, compatible]

theorem Misfit.status_cases {error : LinkError} (misfit : linker.Misfit i error) :
    (linker.status i = .unresolved ∧ error = .unresolvedImport i.module i.name i.type) ∨
    linker.status i = .mismatched ∧
      ∃ found, error = .importTypeMismatch i.module i.name i.type found := by
  cases misfit with
  | unresolved unbound => exact Or.inl ⟨status_eq_unresolved_iff.mpr unbound, rfl⟩
  | mismatched found incompatible =>
      exact Or.inr ⟨by simp [status, found, incompatible], _, rfl⟩

end

variable {linker : Linker}

theorem resolveImports_stops {imports : List Import} {error : LinkError}
    (failed : linker.resolveImports imports = .error error) :
    ∃ earlier i later, imports = earlier ++ i :: later ∧
      (∀ e ∈ earlier, linker.status e = .bound) ∧ linker.Misfit i error := by
  obtain ⟨k, i, at_k, misfit, fitted⟩ := resolveImports_eq_error_iff.mp failed
  obtain ⟨inside, rfl⟩ := List.getElem?_eq_some_iff.mp at_k
  refine ⟨imports.take k, imports[k], imports.drop (k + 1), ?_, ?_, misfit⟩
  · rw [← List.drop_eq_getElem_cons inside, List.take_append_drop]
  · intro earlier member
    obtain ⟨j, below, found⟩ := List.mem_take_iff_getElem.mp member
    rw [Nat.lt_min] at below
    exact status_eq_bound_iff.mpr
      (fitted j below.1 earlier (List.getElem?_eq_some_iff.mpr ⟨below.2, found⟩))

theorem unresolvedImports_eq_filter (linker : Linker) (m : Module) :
    linker.unresolvedImports m = m.imports.filter fun i => linker.status i = .unresolved := by
  apply List.filter_congr
  intro i _
  rw [Bool.eq_iff_iff]
  simp [status_eq_unresolved_iff, Namespace.contains, get?]

end Linker

def Linker.shown (linker : Linker) (i : Import) : String :=
  (linker.status i).text

def InspectRequest.shownLine (i : Import) (word : String) : String :=
  "  \"" ++ i.module ++ "\".\"" ++ i.name ++ "\": " ++ i.type.text ++ " [" ++ word ++ "]"

@[simp] theorem Linker.shown_eq_ok_iff {linker : Linker} {i : Import} :
    linker.shown i = "ok" ↔ linker.status i = .bound := by
  unfold shown
  cases linker.status i <;> simp [ImportStatus.text]

@[simp] theorem Linker.shown_eq_unresolved_iff {linker : Linker} {i : Import} :
    linker.shown i = "unresolved" ↔ linker.status i = .unresolved := by
  unfold shown
  cases linker.status i <;> simp [ImportStatus.text]

@[simp] theorem Linker.shown_eq_mismatch_iff {linker : Linker} {i : Import} :
    linker.shown i = "type mismatch" ↔ linker.status i = .mismatched := by
  unfold shown
  cases linker.status i <;> simp [ImportStatus.text]

/-- After its preloads an inspection shows every import of its module, in the order of their
declaration, with the word that the linker of that moment gives. -/
theorem InspectRequest.perform_shows {files : FileSystem} {request : InspectRequest}
    {shell ready : Shell} {m : Module}
    (preloaded : request.preloads.forM (Shell.preload files) shell = .ok () ready)
    (loaded : files.load request.file = .ok m) :
    request.perform files shell = .ok () { ready with
      printed := ready.printed ++
        ("Imports:" :: (m.imports.map fun i => shownLine i (ready.linker.shown i)) ++
          "Exports:" :: m.exportTypes.map exportLine) } := by
  have found : Shell.load files request.file ready = .ok m ready := by
    simp only [Shell.load, Shell.link, Manifest.settle, loaded]
  have printed : request.perform files shell = Shell.print (["Imports:"]
      ++ m.imports.map (importLine ready.linker) ++ ["Exports:"]
      ++ m.exportTypes.map exportLine) ready := by
    simp only [perform, bind, EStateM.bind, preloaded, found]
    rfl
  rw [printed, List.append_assoc]
  rfl

/-- The three views of a module's imports agree. -/
theorem import_views_agree (linker : Linker) (m : Module) :
    ((∃ values, linker.resolve m = .ok values) ↔ ∀ i ∈ m.imports, linker.shown i = "ok") ∧
    (∀ error, linker.resolve m = .error error →
      ∃ earlier i later, m.imports = earlier ++ i :: later ∧
        (∀ e ∈ earlier, linker.shown e = "ok") ∧ linker.shown i ≠ "ok" ∧
        error.key = some (i.module, i.name) ∧
        (error = .unresolvedImport i.module i.name i.type ↔ linker.shown i = "unresolved") ∧
        ((∃ found, error = .importTypeMismatch i.module i.name i.type found) ↔
          linker.shown i = "type mismatch")) ∧
    linker.unresolvedImports m = (m.imports.filter fun i => linker.shown i = "unresolved") ∧
    ∀ files (request : InspectRequest) shell ready,
      request.preloads.forM (Shell.preload files) shell = .ok () ready →
      ready.linker = linker → files.load request.file = .ok m →
      ∃ after exportLines, request.perform files shell = .ok () after ∧
        after.printed = ready.printed ++
          ("Imports:" :: (m.imports.map fun i => InspectRequest.shownLine i (linker.shown i)) ++
            "Exports:" :: exportLines) := by
  refine ⟨?_, ?_, ?_, ?_⟩
  · simp only [Linker.shown_eq_ok_iff, Linker.status_eq_bound_iff]
    exact Linker.resolveImports_succeeds_iff
  · intro error failed
    obtain ⟨earlier, i, later, split, bound, misfit⟩ := Linker.resolveImports_stops failed
    refine ⟨earlier, i, later, split, by simpa using bound, ?_⟩
    rcases misfit.status_cases with ⟨status, rfl⟩ | ⟨status, found, rfl⟩
    · simp [status, LinkError.key]
    · simp [status, LinkError.key]
  · simpa using linker.unresolvedImports_eq_filter m
  · rintro files request shell ready preloaded rfl loaded
    exact ⟨_, _, InspectRequest.perform_shows preloaded loaded, rfl⟩

/-- Of two keys that are imported twice, one is bound to a value that fits the first of its imports
only, the other one is not bound. Resolving stops at the second import, and the list has both
imports of the key that is not bound. -/
theorem views_of_repeated_imports :
    let linker := (Linker.new { id := 0 }).run
      [.onStore (.newFunc ⟨⟨[.i32], []⟩, .host "f" (.values [])⟩),
        .define "env" "f" ⟨0, .func ⟨0, ⟨[.i32], []⟩⟩⟩]
    let missing : Import := ⟨"env", "g", .global ⟨.i32, false⟩⟩
    let m : Module := {
      name := some "m"
      imports := [⟨"env", "f", .func ⟨[.i32], []⟩⟩, missing, ⟨"env", "f", .func ⟨[], []⟩⟩, missing] }
    let files : FileSystem := fun _ => .ok (.module m)
    m.imports.map linker.shown = ["ok", "unresolved", "type mismatch", "unresolved"] ∧
    linker.unresolvedImports m = [missing, missing] ∧
    (∃ error, linker.resolve m = .error error ∧ ∃ earlier i later,
      m.imports = earlier ++ i :: later ∧ linker.shown i ≠ "ok" ∧
        error.key = some (i.module, i.name)) ∧
    ∃ after exportLines, InspectRequest.perform files { file := "m.wat" } ⟨linker, []⟩ =
        .ok () after ∧
      after.printed = "Imports:" :: (m.imports.map fun i =>
        InspectRequest.shownLine i (linker.shown i)) ++ "Exports:" :: exportLines := by
  intro linker missing m files
  obtain ⟨_, stops, listed, inspected⟩ := import_views_agree linker m
  obtain ⟨error, failed⟩ : ∃ error, linker.resolve m = .error error := ⟨_, rfl⟩
  obtain ⟨earlier, i, later, split, _, notOk, key, _⟩ := stops error failed
  have loaded : files.load "m.wat" = .ok m := by decide +kernel
  refine ⟨by decide, listed.trans (by decide), ?_, ?_⟩
  · exact ⟨error, failed, earlier, i, later, split, notOk, key⟩
  · exact inspected files { file := "m.wat" } ⟨linker, []⟩ ⟨linker, []⟩ rfl rfl loaded

end Linkage
