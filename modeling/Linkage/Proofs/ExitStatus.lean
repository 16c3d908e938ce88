import Linkage.Failure

/-!
The exit status of a failure depends on what the error is or carries and on nothing that was put
around it. A trap at the start of a module, a fault of linking and everything else have a status
each, however deep they lie. The search for the status goes through the chain of errors, and the
chain shows less than the error carries: contexts come first, an error that presents itself as the
one it wraps hides it, and a trap is printed by the error that holds it but not named as its source.
-/

namespace Linkage

/-- One error of a chain. A context is an error of a type of its own. -/
inductive Layer where
  | context (text : String)
  | cause (error : Cause)

def Failure.layers (failure : Failure) : List Layer :=
  failure.contexts.map .context ++ failure.cause.chain.map .cause

def Layer.exitCode? : Layer → Option Nat
  | .context _ => none
  | .cause error => error.exitCode?

def searchStatus : List Layer → Nat
  | [] => exitFailure
  | layer :: rest =>
      match layer.exitCode? with
      | some status => status
      | none => searchStatus rest

theorem searchStatus_contexts (contexts : List String) (rest : List Layer) :
    searchStatus (contexts.map .context ++ rest) = searchStatus rest := by
  induction contexts with
  | nil => rfl
  | cons context others ih => simpa [searchStatus, Layer.exitCode?] using ih

theorem searchStatus_causes (causes : List Cause) :
    searchStatus (causes.map .cause) = (causes.findSome? Cause.exitCode?).getD exitFailure := by
  induction causes with
  | nil => rfl
  | cons cause rest ih =>
      simp only [List.map_cons, searchStatus, Layer.exitCode?, List.findSome?_cons]
      cases cause.exitCode? with
      | none => simpa using ih
      | some status => rfl

theorem Failure.exitCode_eq_search (failure : Failure) :
    failure.exitCode = searchStatus failure.layers := by
  rw [Failure.layers, searchStatus_contexts, searchStatus_causes, Failure.exitCode]

/-- A cause with contexts put around it one by one, the first of the list first. -/
def Cause.within (cause : Cause) (contexts : List String) : Failure :=
  contexts.foldl (fun inner context => inner.within context) (.of cause)

theorem Failure.foldl_within_cause (contexts : List String) (failure : Failure) :
    (contexts.foldl (fun inner context => inner.within context) failure).cause =
      failure.cause := by
  induction contexts generalizing failure with
  | nil => rfl
  | cons context rest ih => exact ih (failure.within context)

theorem Cause.exitCode_within (cause : Cause) (contexts : List String) :
    (cause.within contexts).exitCode = (Failure.of cause).exitCode := by
  have kept : (cause.within contexts).cause = cause :=
    Failure.foldl_within_cause contexts (Failure.of cause)
  rw [Failure.exitCode, Failure.exitCode, kept]
  rfl

/-- The error that an error was made from, shown or not. -/
def Cause.inner? : Cause → Option Cause
  | .link (.type error) => some (.type error)
  | .instantiation (.link error) => some (.link error)
  | .instantiation (.trap reason) => some (.trap reason)
  | .manifest (.unreadable _ error) => some (.read error)
  | .manifest (.uncompilable _ text) => some (.compilation text)
  | .manifest (.link error) => some (.link error)
  | .manifest (.instantiation _ error) => some (.instantiation error)
  | .trap (.host text) => some (.message text)
  | _ => none

inductive Carries : Cause → Cause → Prop where
  | itself (cause : Cause) : Carries cause cause
  | inside {outer inner part : Cause} : outer.inner? = some inner → Carries inner part →
      Carries outer part

theorem carries_iff {outer part : Cause} :
    Carries outer part ↔ part = outer ∨ ∃ inner, outer.inner? = some inner ∧ Carries inner part := by
  constructor
  · intro carries
    cases carries with
    | itself => exact Or.inl rfl
    | inside made deeper => exact Or.inr ⟨_, made, deeper⟩
  · rintro (rfl | ⟨inner, made, deeper⟩)
    · exact Carries.itself _
    · exact Carries.inside made deeper

def CarriesTrap (cause : Cause) : Prop :=
  ∃ reason, Carries cause (.instantiation (.trap reason))

def CarriesLinkFault (cause : Cause) : Prop :=
  ∃ error : LinkError, error.isTypeError = false ∧ Carries cause (.link error)

section
variable {outer inner : Cause}

theorem carriesTrap_iff (notTrap : ∀ reason, outer ≠ .instantiation (.trap reason)) :
    CarriesTrap outer ↔ ∃ inner, outer.inner? = some inner ∧ CarriesTrap inner := by
  constructor
  · rintro ⟨reason, carries⟩
    rcases carries_iff.mp carries with same | ⟨inner, made, deeper⟩
    · exact absurd same.symm (notTrap reason)
    · exact ⟨inner, made, reason, deeper⟩
  · rintro ⟨inner, made, reason, deeper⟩
    exact ⟨reason, Carries.inside made deeper⟩

theorem carriesLinkFault_iff
    (notFault : ∀ error : LinkError, error.isTypeError = false → outer ≠ .link error) :
    CarriesLinkFault outer ↔ ∃ inner, outer.inner? = some inner ∧ CarriesLinkFault inner := by
  constructor
  · rintro ⟨error, fault, carries⟩
    rcases carries_iff.mp carries with same | ⟨inner, made, deeper⟩
    · exact absurd same.symm (notFault error fault)
    · exact ⟨inner, made, error, fault, deeper⟩
  · rintro ⟨inner, made, error, fault, deeper⟩
    exact ⟨error, fault, Carries.inside made deeper⟩

end

structure StatusOf (cause : Cause) (status : Nat) : Prop where
  trap : status = exitTrap ↔ CarriesTrap cause
  link : status = exitLinkError ↔ CarriesLinkFault cause
  other : status = exitFailure ↔ ¬ CarriesTrap cause ∧ ¬ CarriesLinkFault cause

variable {outer inner : Cause} {status : Nat}

/-- An error that decides nothing itself has the status of what it was made from. -/
theorem StatusOf.inside (made : outer.inner? = some inner)
    (notTrap : ∀ reason, outer ≠ .instantiation (.trap reason))
    (notFault : ∀ error : LinkError, error.isTypeError = false → outer ≠ .link error)
    (deeper : StatusOf inner status) : StatusOf outer status := by
  have traps : CarriesTrap outer ↔ CarriesTrap inner := by
    simp [carriesTrap_iff notTrap, made]
  have faults : CarriesLinkFault outer ↔ CarriesLinkFault inner := by
    simp [carriesLinkFault_iff notFault, made]
  constructor
  · rw [traps]
    exact deeper.trap
  · rw [faults]
    exact deeper.link
  · rw [traps, faults]
    exact deeper.other

theorem StatusOf.innermost (made : outer.inner? = none)
    (notTrap : ∀ reason, outer ≠ .instantiation (.trap reason))
    (notFault : ∀ error : LinkError, error.isTypeError = false → outer ≠ .link error) :
    StatusOf outer exitFailure := by
  have noTrap : ¬ CarriesTrap outer := by simp [carriesTrap_iff notTrap, made]
  have noFault : ¬ CarriesLinkFault outer := by simp [carriesLinkFault_iff notFault, made]
  constructor <;> simp [noTrap, noFault, exitFailure, exitTrap, exitLinkError]

theorem statusOf_runningTrap (reason : Trap) : StatusOf (.trap reason) exitFailure := by
  cases reason with
  | host text =>
      have message : StatusOf (.message text) exitFailure :=
        StatusOf.innermost rfl (by simp) (by simp)
      exact StatusOf.inside rfl (by simp) (by simp) message
  | _ => exact StatusOf.innermost rfl (by simp) (by simp)

theorem statusOf_startTrap (reason : Trap) :
    StatusOf (.instantiation (.trap reason)) exitTrap := by
  have isTrap : CarriesTrap (.instantiation (.trap reason)) := ⟨reason, Carries.itself _⟩
  have noFault : ¬ CarriesLinkFault (.instantiation (.trap reason)) := by
    have below := (statusOf_runningTrap reason).other.mp rfl
    rw [carriesLinkFault_iff (by simp)]
    rintro ⟨inner, made, fault⟩
    cases made
    exact below.2 fault
  constructor <;> simp [isTrap, noFault, exitFailure, exitTrap, exitLinkError]

theorem statusOf_link (error : LinkError) : StatusOf (.link error) error.exitCode := by
  cases fault : error.isTypeError with
  | true =>
      cases error with
      | type error =>
          have below : StatusOf (.type error) exitFailure :=
            StatusOf.innermost rfl (by simp) (by simp)
          apply StatusOf.inside rfl (by simp) _ below
          rintro other notType ⟨⟩
          cases notType
      | _ => cases fault
  | false =>
      have isFault : CarriesLinkFault (.link error) := ⟨error, fault, Carries.itself _⟩
      have noTrap : ¬ CarriesTrap (.link error) := by
        rw [carriesTrap_iff (by simp)]
        cases error <;> simp_all [Cause.inner?, LinkError.isTypeError]
      rw [LinkError.exitCode, fault]
      constructor <;> simp [isFault, noTrap, exitFailure, exitTrap, exitLinkError]

theorem statusOf_instantiation (error : InstantiationError) :
    StatusOf (.instantiation error) error.exitCode := by
  cases error with
  | link error => exact StatusOf.inside rfl (by simp) (by simp) (statusOf_link error)
  | trap reason => exact statusOf_startTrap reason
  | engine message => exact StatusOf.innermost rfl (by simp) (by simp)

theorem statusOf_manifest (error : ManifestError) :
    StatusOf (.manifest error) (Failure.of (.manifest error)).exitCode := by
  cases error with
  | unreadable path error =>
      have below : StatusOf (.read error) exitFailure :=
        StatusOf.innermost rfl (by simp) (by simp)
      exact StatusOf.inside rfl (by simp) (by simp) below
  | uncompilable path text =>
      have below : StatusOf (.compilation text) exitFailure :=
        StatusOf.innermost rfl (by simp) (by simp)
      exact StatusOf.inside rfl (by simp) (by simp) below
  | danglingAlias copy => exact StatusOf.innermost rfl (by simp) (by simp)
  | link error => exact StatusOf.inside rfl (by simp) (by simp) (statusOf_link error)
  | instantiation path error =>
      exact StatusOf.inside rfl (by simp) (by simp) (statusOf_instantiation error)

theorem statusOf_exitCode (cause : Cause) : StatusOf cause (Failure.of cause).exitCode := by
  cases cause with
  | link error => exact statusOf_link error
  | instantiation error => exact statusOf_instantiation error
  | manifest error => exact statusOf_manifest error
  | trap reason =>
      have status : (Failure.of (.trap reason)).exitCode = exitFailure := by cases reason <;> rfl
      rw [status]
      exact statusOf_runningTrap reason
  | _ => exact StatusOf.innermost rfl (by simp) (by simp)

/-- Whatever contexts stand around it, an error exits with 3 iff it is or carries a trap at the
start of a module, with 2 iff it is or carries a link error that is no type error, and with 1
otherwise. So a link error has one status, bare or wrapped. -/
theorem exitCode_iff_carried (contexts : List String) (cause : Cause) :
    (cause.within contexts).exitCode = searchStatus (cause.within contexts).layers ∧
    ((cause.within contexts).exitCode = 3 ↔ CarriesTrap cause) ∧
    ((cause.within contexts).exitCode = 2 ↔ CarriesLinkFault cause) ∧
    ((cause.within contexts).exitCode = 1 ↔ ¬ CarriesTrap cause ∧ ¬ CarriesLinkFault cause) ∧
    ∀ (error : LinkError) (path : String) (others : List String),
      let status := ((Cause.link error).within others).exitCode
      ((Cause.instantiation (.link error)).within contexts).exitCode = status ∧
      ((Cause.manifest (.link error)).within contexts).exitCode = status ∧
      ((Cause.manifest (.instantiation path (.link error))).within contexts).exitCode = status := by
  have status := statusOf_exitCode cause
  rw [← Cause.exitCode_within cause contexts] at status
  constructor
  · exact Failure.exitCode_eq_search _
  constructor
  · exact status.trap
  constructor
  · exact status.link
  constructor
  · exact status.other
  · intro error path others
    simp only [Cause.exitCode_within]
    constructor
    · rfl
    constructor <;> rfl

end Linkage
