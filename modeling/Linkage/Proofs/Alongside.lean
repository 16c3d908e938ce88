import Linkage.Linker.Instantiate
import Linkage.Proofs.Moves
import Linkage.Proofs.Resolution

/-!
Two actions side by side. From related states both succeed with one value or both fail with
related errors, and the states they leave are related again. The parts of two actions are compared
one by one, and an action on one side only may change what the relation does not look at. The
operations of a linker run alongside themselves on linkers that differ in their trace: a trace
is written and never read.
-/

namespace Linkage

variable {ε ε' φ φ' σ σ' ι α β : Type}

inductive Matched (states : σ → σ' → Prop) (errors : ε → ε' → Prop) :
    EStateM.Result ε σ α → EStateM.Result ε' σ' α → Prop where
  | ok {value : α} {first : σ} {second : σ'} (related : states first second) :
      Matched states errors (.ok value first) (.ok value second)
  | error {left : ε} {right : ε'} {first : σ} {second : σ'} (faults : errors left right)
      (related : states first second) :
      Matched states errors (.error left first) (.error right second)

def Alongside (states : σ → σ' → Prop) (errors : ε → ε' → Prop) (left : EStateM ε σ α)
    (right : EStateM ε' σ' α) : Prop :=
  ∀ first second, states first second → Matched states errors (left first) (right second)

section
variable {states : σ → σ' → Prop} {errors : ε → ε' → Prop}

theorem Matched.symm {left : EStateM.Result ε σ α} {right : EStateM.Result ε' σ' α}
    (matched : Matched states errors left right) :
    Matched (fun second first => states first second) (fun other fault => errors fault other)
      right left := by
  cases matched with
  | ok related => exact .ok related
  | error faults related => exact .error faults related

theorem Alongside.symm {left : EStateM ε σ α} {right : EStateM ε' σ' α}
    (actions : Alongside states errors left right) :
    Alongside (fun second first => states first second) (fun other fault => errors fault other)
      right left :=
  fun second first related => (actions first second related).symm

theorem Matched.imp {after : σ → σ' → Prop} {left : EStateM.Result ε σ α}
    {right : EStateM.Result ε' σ' α}
    (implies : ∀ first second, states first second → after first second)
    (matched : Matched states errors left right) : Matched after errors left right := by
  cases matched with
  | ok related => exact .ok (implies _ _ related)
  | error faults related => exact .error faults (implies _ _ related)

theorem Matched.stateAfter {left : EStateM ε σ α} {right : EStateM ε' σ' α} {first : σ}
    {second : σ'} (matched : Matched states errors (left first) (right second)) :
    states (stateAfter left first) (stateAfter right second) := by
  unfold Linkage.stateAfter
  generalize left first = leftEnd at matched
  generalize right second = rightEnd at matched
  cases matched with
  | ok related => exact related
  | error _ related => exact related

theorem alongside_pure (value : α) :
    Alongside states errors (pure value : EStateM ε σ α) (pure value : EStateM ε' σ' α) :=
  fun _ _ related => .ok related

theorem alongside_bind {left : EStateM ε σ α} {right : EStateM ε' σ' α}
    {leftRest : α → EStateM ε σ β} {rightRest : α → EStateM ε' σ' β}
    (starts : Alongside states errors left right)
    (rests : ∀ value, Alongside states errors (leftRest value) (rightRest value)) :
    Alongside states errors (left >>= leftRest) (right >>= rightRest) := by
  intro first second related
  have step := starts first second related
  simp only [bind, EStateM.bind]
  generalize left first = leftEnd at step
  generalize right second = rightEnd at step
  cases step with
  | ok related => exact rests _ _ _ related
  | error faults related => exact .error faults related

theorem alongside_forM {left : ι → EStateM ε σ PUnit} {right : ι → EStateM ε' σ' PUnit}
    (each : ∀ item, Alongside states errors (left item) (right item)) (items : List ι) :
    Alongside states errors (items.forM left) (items.forM right) := by
  induction items with
  | nil => exact alongside_pure PUnit.unit
  | cons item rest ih => exact alongside_bind (each item) fun _ => ih

theorem alongside_modify {change : σ → σ} {other : σ' → σ'}
    (kept : ∀ first second, states first second → states (change first) (other second)) :
    Alongside states errors (modify change : EStateM ε σ PUnit)
      (modify other : EStateM ε' σ' PUnit) :=
  fun first second related => .ok (kept first second related)

theorem alongside_modify_right {change : σ' → σ'} {rest : PUnit → EStateM ε' σ' α}
    {left : EStateM ε σ α}
    (kept : ∀ first second, states first second → states first (change second))
    (rests : Alongside states errors left (rest PUnit.unit)) :
    Alongside states errors left ((modify change : EStateM ε' σ' PUnit) >>= rest) :=
  fun first second related => rests first (change second) (kept first second related)

theorem alongside_modify_left {change : σ → σ} {rest : PUnit → EStateM ε σ α}
    {right : EStateM ε' σ' α}
    (kept : ∀ first second, states first second → states (change first) second)
    (rests : Alongside states errors (rest PUnit.unit) right) :
    Alongside states errors ((modify change : EStateM ε σ PUnit) >>= rest) right :=
  (alongside_modify_right (fun second first related => kept first second related)
    rests.symm).symm

theorem Matched.around_right {left : EStateM.Result ε σ α} {right : EStateM ε' σ' α}
    {second : σ'} {emit : TraceEntry → σ' → σ'} {span : TraceEntry}
    (kept : ∀ entry first second, states first second → states first (emit entry second))
    (matched : Matched states errors left (right (emit span second))) :
    Matched states errors left (span.around emit right second) := by
  simp only [TraceEntry.around]
  generalize right (emit span second) = rightEnd at matched
  cases matched with
  | ok related => exact .ok (kept _ _ _ related)
  | error faults related => exact .error faults (kept _ _ _ related)

theorem alongside_around_right {left : EStateM ε σ α} {right : EStateM ε' σ' α}
    {emit : TraceEntry → σ' → σ'} (span : TraceEntry)
    (kept : ∀ entry first second, states first second → states first (emit entry second))
    (actions : Alongside states errors left right) :
    Alongside states errors left (span.around emit right) :=
  fun first second related =>
    .around_right kept (actions first (emit span second) (kept span first second related))

theorem alongside_around_left {left : EStateM ε σ α} {right : EStateM ε' σ' α}
    {emit : TraceEntry → σ → σ} (span : TraceEntry)
    (kept : ∀ entry first second, states first second → states (emit entry first) second)
    (actions : Alongside states errors left right) :
    Alongside states errors (span.around emit left) right :=
  (alongside_around_right span (fun entry second first related => kept entry first second related)
    actions.symm).symm

theorem Matched.adaptExcept_right {left : EStateM.Result ε σ α} {right : EStateM φ' σ' α}
    {second : σ'} {inner : ε → φ' → Prop} {adapt : φ' → ε'}
    (adapted : ∀ fault other, inner fault other → errors fault (adapt other))
    (matched : Matched states inner left (right second)) :
    Matched states errors left (EStateM.adaptExcept adapt right second) := by
  simp only [EStateM.adaptExcept]
  generalize right second = rightEnd at matched
  cases matched with
  | ok related => exact .ok related
  | error faults related => exact .error (adapted _ _ faults) related

theorem Matched.adaptExcept_left {left : EStateM φ σ α} {right : EStateM.Result ε' σ' α}
    {first : σ} {inner : φ → ε' → Prop} {adapt : φ → ε}
    (adapted : ∀ fault other, inner fault other → errors (adapt fault) other)
    (matched : Matched states inner (left first) right) :
    Matched states errors (EStateM.adaptExcept adapt left first) right :=
  (matched.symm.adaptExcept_right fun other fault inners => adapted fault other inners).symm

theorem alongside_adaptExcept_right {left : EStateM ε σ α} {right : EStateM φ' σ' α}
    {inner : ε → φ' → Prop} {adapt : φ' → ε'}
    (adapted : ∀ fault other, inner fault other → errors fault (adapt other))
    (actions : Alongside states inner left right) :
    Alongside states errors left (EStateM.adaptExcept adapt right) :=
  fun first second related => (actions first second related).adaptExcept_right adapted

theorem alongside_adaptExcept_left {left : EStateM φ σ α} {right : EStateM ε' σ' α}
    {inner : φ → ε' → Prop} {adapt : φ → ε}
    (adapted : ∀ fault other, inner fault other → errors (adapt fault) other)
    (actions : Alongside states inner left right) :
    Alongside states errors (EStateM.adaptExcept adapt left) right :=
  fun first second related => (actions first second related).adaptExcept_left adapted

end

namespace Linker

def SameButTrace (first second : Linker) : Prop :=
  ∃ trace, second = { first with trace := trace }

theorem SameButTrace.emit_left {first second : Linker} (same : SameButTrace first second)
    (entry : TraceEntry) : SameButTrace (first.emit entry) second := by
  obtain ⟨trace, rfl⟩ := same
  exact ⟨trace, rfl⟩

theorem SameButTrace.emit_right {first second : Linker} (same : SameButTrace first second)
    (entry : TraceEntry) : SameButTrace first (second.emit entry) := by
  obtain ⟨trace, rfl⟩ := same
  exact ⟨trace ++ [entry], rfl⟩

theorem SameButTrace.resolve_eq {first second : Linker} (same : SameButTrace first second)
    (m : Module) : second.resolve m = first.resolve m := by
  obtain ⟨trace, rfl⟩ := same
  exact resolveImports_congr (fun _ => rfl) fun _ _ => rfl

abbrev Traceless {ε α : Type} (action : Linking ε α) : Prop :=
  Alongside SameButTrace Eq action action

theorem traceless_adaptExcept {ε ε' α : Type} {action : Linking ε α} (adapt : ε → ε')
    (traceless : Traceless action) : Traceless (EStateM.adaptExcept adapt action) := by
  have onRight : Alongside SameButTrace (fun fault other => adapt fault = other) action
      (EStateM.adaptExcept adapt action) :=
    alongside_adaptExcept_right (fun _ _ same => congrArg adapt same) traceless
  exact alongside_adaptExcept_left (fun _ _ same => same) onRight

theorem define_traceless (module name : String) (value : Extern) :
    Traceless (define module name value) := by
  rintro linker _ ⟨trace, rfl⟩
  have classified : ({ linker with trace := trace } : Linker).classify module name value =
      linker.classify module name value := rfl
  simp only [define, classified]
  cases linker.classify module name value with
  | error error => exact .error rfl ⟨trace, rfl⟩
  | ok kind =>
      simp only [bindClassified]
      cases linker.registry.insert module name value linker.shadowing with
      | error error => exact .error rfl ⟨trace, rfl⟩
      | ok inserted => exact .ok ⟨trace ++ [_], rfl⟩

theorem defineExports_traceless (module : String) (exports : List (String × Extern)) :
    Traceless (defineExports module exports) := by
  induction exports with
  | nil => exact alongside_pure ()
  | cons first rest ih => exact alongside_bind (define_traceless module first.1 first.2) fun _ => ih

/-- Instantiating runs alongside itself on linkers with one engine and equal stores on which the
module resolves alike, for every relation of linkers that neither a trace nor a common change of the stores ends. -/
theorem instantiate_alongside {m : Module} {states : Linker → Linker → Prop}
    (engines : ∀ first second, states first second → first.engine = second.engine)
    (stores : ∀ first second, states first second → first.store = second.store)
    (resolves : ∀ first second, states first second → first.resolve m = second.resolve m)
    (emitLeft : ∀ entry first second, states first second → states (first.emit entry) second)
    (emitRight : ∀ entry first second, states first second → states first (second.emit entry))
    (change : ∀ store first second, states first second →
      states { first with store := store } { second with store := store }) :
    Alongside states Eq (instantiate m) (instantiate m) := by
  have emitBoth (entry : TraceEntry) (first second : Linker) (related : states first second) :
      states (first.emit entry) (second.emit entry) :=
    emitLeft entry first _ (emitRight entry first second related)
  refine alongside_around_left _ emitLeft (alongside_around_right _ emitRight ?_)
  intro first second related
  simp only [instantiateResolved, resolves first second related]
  -- Entries are written on both sides before the engine is handed the store.
  cases second.resolve m with
  | error error => exact .error rfl (emitBoth _ _ _ related)
  | ok values =>
      simp only [store_note, engines first second related, stores first second related]
      cases second.engine.instantiate m values second.store with
      | ok inst store => exact .ok (emitBoth _ _ _ (change store _ _ (emitBoth _ _ _ related)))
      | error error store =>
          exact .error rfl (emitBoth _ _ _ (change store _ _ (emitBoth _ _ _ related)))

theorem instantiate_traceless (m : Module) : Traceless (instantiate m) := by
  refine instantiate_alongside ?_ ?_ (fun _ _ same => (same.resolve_eq m).symm)
    (fun entry _ _ same => same.emit_left entry) (fun entry _ _ same => same.emit_right entry) ?_
  · rintro first _ ⟨trace, rfl⟩
    rfl
  · rintro first _ ⟨trace, rfl⟩
    rfl
  · rintro store first _ ⟨trace, rfl⟩
    exact ⟨trace, rfl⟩

theorem instantiateAndDefine_traceless (module : String) (m : Module) :
    Traceless (instantiateAndDefine module m) :=
  alongside_bind (instantiate_traceless m) fun inst =>
    alongside_bind (traceless_adaptExcept _ (defineExports_traceless module inst.exports))
      fun _ => alongside_pure inst

theorem register_traceless (module : String) (m : Module) : Traceless (register module m) := by
  rintro linker _ ⟨trace, rfl⟩
  -- Collisions are looked for among the bindings, before anything is run.
  have collision : ({ linker with trace := trace } : Linker).collision? module m =
      linker.collision? module m := rfl
  simp only [register, collision]
  cases (if linker.shadowing = .reject then linker.collision? module m else none) with
  | some e => exact .error rfl ⟨trace ++ [_], rfl⟩
  | none => exact instantiateAndDefine_traceless module m linker _ ⟨trace, rfl⟩

end Linker

end Linkage
