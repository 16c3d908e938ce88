/-!
What an action does to its state. An action ends with a value or with an error, and it leaves a
state either way. A relation between the state it found and the state it left is carried from the
parts of an action to the whole, provided that the relation is reflexive and transitive.
-/

namespace Linkage

variable {ε ε' σ α β : Type}

def stateAfter (action : EStateM ε σ α) (state : σ) : σ :=
  match action state with
  | .ok _ after => after
  | .error _ after => after

/-- Every run of an action leaves a state that stands in `relation` to the one it found. -/
def Moves (relation : σ → σ → Prop) (action : EStateM ε σ α) : Prop :=
  ∀ state, relation state (stateAfter action state)

theorem stateAfter_eq_of_ok {action : EStateM ε σ α} {state after : σ} {value : α}
    (outcome : action state = .ok value after) : stateAfter action state = after := by
  rw [stateAfter, outcome]

theorem stateAfter_eq_of_error {action : EStateM ε σ α} {state after : σ} {error : ε}
    (outcome : action state = .error error after) : stateAfter action state = after := by
  rw [stateAfter, outcome]

section
variable {state after : σ}

theorem bind_eq_ok_iff {first : EStateM ε σ α} {rest : α → EStateM ε σ β} {value : β} :
    (first >>= rest) state = .ok value after ↔
      ∃ found middle, first state = .ok found middle ∧ rest found middle = .ok value after := by
  simp only [bind, EStateM.bind]
  cases first state with
  | error error middle => simp
  | ok found middle =>
      constructor
      · intro later
        exact ⟨found, middle, rfl, later⟩
      · rintro ⟨_, _, ⟨⟩, later⟩
        exact later

theorem bind_eq_error_iff {first : EStateM ε σ α} {rest : α → EStateM ε σ β} {error : ε} :
    (first >>= rest) state = .error error after ↔ first state = .error error after ∨
      ∃ found middle, first state = .ok found middle ∧ rest found middle = .error error after := by
  simp only [bind, EStateM.bind]
  cases first state with
  | error error middle => simp
  | ok found middle =>
      constructor
      · intro later
        exact Or.inr ⟨found, middle, rfl, later⟩
      · rintro (contrary | ⟨_, _, ⟨⟩, later⟩)
        · cases contrary
        · exact later

theorem except_bind_eq_ok_iff {first : Except ε α} {rest : α → Except ε β} {result : β} :
    (first >>= rest) = .ok result ↔ ∃ value, first = .ok value ∧ rest value = .ok result := by
  cases first <;> simp [bind, Except.bind]

theorem except_map_eq_ok_iff {outcome : Except ε α} {change : α → β} {result : β} :
    outcome.map change = .ok result ↔ ∃ value, outcome = .ok value ∧ change value = result := by
  cases outcome <;> simp [Except.map]

theorem discarded_eq_ok_iff {action : EStateM ε σ α} :
    (do let _ ← action : EStateM ε σ Unit) state = .ok () after ↔
      ∃ value, action state = .ok value after := by
  rw [bind_eq_ok_iff]
  constructor
  · rintro ⟨value, _, success, ⟨⟩⟩
    exact ⟨value, success⟩
  · rintro ⟨value, success⟩
    exact ⟨value, after, success, rfl⟩

theorem discarded_eq_error_iff {action : EStateM ε σ α} {error : ε} :
    (do let _ ← action : EStateM ε σ Unit) state = .error error after ↔
      action state = .error error after := by
  rw [bind_eq_error_iff]
  constructor
  · rintro (failure | ⟨_, _, _, ⟨⟩⟩)
    exact failure
  · exact Or.inl

theorem get_bind (rest : σ → EStateM ε σ β) (state : σ) :
    ((get : EStateM ε σ σ) >>= rest) state = rest state state :=
  rfl

theorem modify_bind (change : σ → σ) (rest : PUnit → EStateM ε σ β) (state : σ) :
    ((modify change : EStateM ε σ PUnit) >>= rest) state = rest PUnit.unit (change state) :=
  rfl

theorem adaptExcept_eq_ok_iff {adapt : ε → ε'} {action : EStateM ε σ α} {value : α} :
    EStateM.adaptExcept adapt action state = .ok value after ↔ action state = .ok value after := by
  cases outcome : action state <;> simp [EStateM.adaptExcept, outcome]

theorem adaptExcept_eq_error_iff {adapt : ε → ε'} {action : EStateM ε σ α} {error : ε'} :
    EStateM.adaptExcept adapt action state = .error error after ↔
      ∃ inner, action state = .error inner after ∧ adapt inner = error := by
  simp only [EStateM.adaptExcept]
  cases action state with
  | ok value middle => simp
  | error inner middle =>
      constructor
      · rintro ⟨⟩
        exact ⟨inner, rfl, rfl⟩
      · rintro ⟨_, ⟨⟩, rfl⟩
        rfl

/-- The items lead from one state to another, each one starting where the one before it ended. -/
inductive Chain (step : α → σ → σ → Prop) : List α → σ → σ → Prop where
  | nil (state : σ) : Chain step [] state state
  | cons {item : α} {rest : List α} {before middle after : σ} (head : step item before middle)
      (tail : Chain step rest middle after) : Chain step (item :: rest) before after

theorem Chain.imp {first second : α → σ → σ → Prop} {items : List α} {before after : σ}
    (implies : ∀ item ∈ items, ∀ before after, first item before after →
      second item before after)
    (chain : Chain first items before after) : Chain second items before after := by
  induction chain with
  | nil state => exact .nil state
  | cons head _ ih =>
      exact .cons (implies _ List.mem_cons_self _ _ head)
        (ih fun item member => implies item (List.mem_cons_of_mem _ member))

theorem Chain.append_iff {step : α → σ → σ → Prop} {first second : List α} {before after : σ} :
    Chain step (first ++ second) before after ↔
      ∃ middle, Chain step first before middle ∧ Chain step second middle after := by
  induction first generalizing before with
  | nil =>
      constructor
      · intro chain
        exact ⟨before, .nil before, chain⟩
      · rintro ⟨middle, ⟨⟩, chain⟩
        exact chain
  | cons item rest ih =>
      constructor
      · rintro (_ | ⟨head, tail⟩)
        obtain ⟨middle, left, right⟩ := ih.mp tail
        exact ⟨middle, .cons head left, right⟩
      · rintro ⟨middle, _ | ⟨head, left⟩, right⟩
        exact .cons head (ih.mpr ⟨middle, left, right⟩)

theorem forM_eq_ok_iff {action : α → EStateM ε σ PUnit} {items : List α} {value : PUnit} :
    items.forM action state = .ok value after ↔
      Chain (fun item before after => action item before = .ok PUnit.unit after) items
        state after := by
  induction items generalizing state with
  | nil =>
      constructor
      · intro success
        cases success
        exact .nil _
      · rintro ⟨⟩
        rfl
  | cons item rest ih =>
      rw [List.forM, bind_eq_ok_iff]
      constructor
      · rintro ⟨_, middle, head, tail⟩
        exact .cons head (ih.mp tail)
      · rintro (_ | ⟨head, tail⟩)
        exact ⟨_, _, head, ih.mpr tail⟩

/-- The items before the first one that fails have all been run, and none after it. -/
theorem forM_eq_error_iff {action : α → EStateM ε σ PUnit} {items : List α} {error : ε} :
    items.forM action state = .error error after ↔
      ∃ done item rest reached, items = done ++ item :: rest ∧
        Chain (fun item before after => action item before = .ok PUnit.unit after) done
          state reached ∧
        action item reached = .error error after := by
  induction items generalizing state with
  | nil =>
      constructor
      · intro failure
        cases failure
      · rintro ⟨done, item, rest, _, split, _⟩
        simp at split
  | cons first others ih =>
      rw [List.forM, bind_eq_error_iff]
      constructor
      · rintro (failed | ⟨_, middle, passed, later⟩)
        · exact ⟨[], first, others, state, rfl, .nil state, failed⟩
        · obtain ⟨done, item, rest, reached, split, chain, failed⟩ := ih.mp later
          exact ⟨first :: done, item, rest, reached, congrArg (first :: ·) split,
            .cons passed chain, failed⟩
      · rintro ⟨done, item, rest, reached, split, chain, failed⟩
        cases chain with
        | nil =>
            cases split
            exact Or.inl failed
        | cons head tail =>
            cases split
            exact Or.inr ⟨_, _, head, ih.mpr ⟨_, item, rest, reached, rfl, tail, failed⟩⟩

end

variable {relation : σ → σ → Prop}

theorem moves_modify {change : σ → σ} (changes : ∀ state, relation state (change state)) :
    Moves relation (modify change : EStateM ε σ PUnit) :=
  fun state => changes state

theorem moves_get_bind {rest : σ → EStateM ε σ β}
    (restMoves : ∀ state, relation state (stateAfter (rest state) state)) :
    Moves relation ((get : EStateM ε σ σ) >>= rest) :=
  fun state => restMoves state

theorem moves_ite {condition : Prop} [Decidable condition] {left right : EStateM ε σ α}
    (leftMoves : Moves relation left) (rightMoves : Moves relation right) :
    Moves relation (if condition then left else right) := by
  split
  · exact leftMoves
  · exact rightMoves

theorem moves_adaptExcept {action : EStateM ε σ α} (actionMoves : Moves relation action)
    (adapt : ε → ε') : Moves relation (EStateM.adaptExcept adapt action) := by
  intro state
  have step := actionMoves state
  cases outcome : action state with
  | ok value after => simpa only [stateAfter, EStateM.adaptExcept, outcome] using step
  | error error after => simpa only [stateAfter, EStateM.adaptExcept, outcome] using step

theorem moves_bind [Trans relation relation relation] {first : EStateM ε σ α}
    {rest : α → EStateM ε σ β}
    (firstMoves : Moves relation first) (restMoves : ∀ value, Moves relation (rest value)) :
    Moves relation (first >>= rest) := by
  intro state
  have firstStep := firstMoves state
  cases outcome : first state with
  | error error middle =>
      rw [stateAfter_eq_of_error outcome] at firstStep
      have whole : (first >>= rest) state = .error error middle := by
        simp only [bind, EStateM.bind, outcome]
      rwa [stateAfter_eq_of_error whole]
  | ok value middle =>
      rw [stateAfter_eq_of_ok outcome] at firstStep
      have whole : stateAfter (first >>= rest) state = stateAfter (rest value) middle := by
        simp only [stateAfter, bind, EStateM.bind, outcome]
      rw [whole]
      exact Trans.trans firstStep (restMoves value middle)

variable [Std.Refl relation]

theorem moves_pure (value : α) : Moves relation (pure value : EStateM ε σ α) :=
  fun state => Std.Refl.refl state

theorem moves_throw (error : ε) : Moves relation (throw error : EStateM ε σ α) :=
  fun state => Std.Refl.refl state

theorem moves_throw_bind (error : ε) (rest : α → EStateM ε σ β) :
    Moves relation ((throw error : EStateM ε σ α) >>= rest) :=
  fun state => Std.Refl.refl state

theorem moves_forM [Trans relation relation relation] {action : α → EStateM ε σ PUnit}
    (actionMoves : ∀ item, Moves relation (action item)) (items : List α) :
    Moves relation (items.forM action) := by
  induction items with
  | nil => exact moves_pure PUnit.unit
  | cons item rest ih => exact moves_bind (actionMoves item) fun _ => ih

end Linkage
