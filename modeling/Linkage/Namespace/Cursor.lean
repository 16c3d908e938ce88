import Linkage.Namespace

/-!
Iteration over a namespace, binding by binding. A cursor stands inside the bindings of one module
and has the other modules still before it. Where the bindings of a module are used up, it goes on to
the next module that has some.
-/

namespace Linkage

abbrev ModuleGroup : Type := String × List (String × Extern)

structure Cursor where
  modules : List ModuleGroup
  current : Option ModuleGroup

namespace Cursor

def advance : List ModuleGroup → Option ModuleGroup → Option (String × String × Extern) × Cursor
  | modules, some (module, (name, value) :: names) =>
      (some (module, name, value), ⟨modules, some (module, names)⟩)
  | [], current => (none, ⟨[], current⟩)
  | entered :: rest, _ => advance rest (some entered)

def next (cursor : Cursor) : Option (String × String × Extern) × Cursor :=
  advance cursor.modules cursor.current

def start (modules : List ModuleGroup) : Cursor :=
  ⟨modules, none⟩

def remaining (cursor : Cursor) : List (String × String × Extern) :=
  Namespace.bindings ⟨cursor.current.toList ++ cursor.modules⟩

theorem advance_remaining (modules : List ModuleGroup) (current : Option ModuleGroup) :
    (advance modules current).1 = (remaining ⟨modules, current⟩).head? ∧
      (advance modules current).2.remaining = (remaining ⟨modules, current⟩).tail := by
  induction modules generalizing current with
  | nil =>
      rcases current with _ | ⟨module, _ | ⟨⟨name, value⟩, names⟩⟩ <;>
        simp [advance, remaining, Namespace.bindings]
  | cons entered rest ih =>
      rcases current with _ | ⟨module, _ | ⟨⟨name, value⟩, names⟩⟩
      · exact ih (some entered)
      · -- An exhausted module is left, with nothing of it remaining.
        simpa [advance, remaining, Namespace.bindings] using ih (some entered)
      · simp [advance, remaining, Namespace.bindings]

theorem next_value (cursor : Cursor) : cursor.next.1 = cursor.remaining.head? :=
  (advance_remaining cursor.modules cursor.current).1

theorem next_remaining (cursor : Cursor) : cursor.next.2.remaining = cursor.remaining.tail :=
  (advance_remaining cursor.modules cursor.current).2

/-- What successive steps give, up to the first that gives nothing. -/
inductive Yields : Cursor → List (String × String × Extern) → Prop where
  | done {cursor : Cursor} : cursor.next.1 = none → Yields cursor []
  | step {cursor : Cursor} {binding : String × String × Extern}
      {bindings : List (String × String × Extern)} :
      cursor.next.1 = some binding → Yields cursor.next.2 bindings →
      Yields cursor (binding :: bindings)

theorem yields_iff {cursor : Cursor} {bindings : List (String × String × Extern)} :
    Yields cursor bindings ↔ bindings = cursor.remaining := by
  constructor
  · intro yields
    induction yields with
    | done nothing =>
        rw [next_value, List.head?_eq_none_iff] at nothing
        exact nothing.symm
    | step given _ ih =>
        rw [next_value] at given
        obtain ⟨later, split⟩ := List.head?_eq_some_iff.mp given
        rw [ih, next_remaining, split, List.tail_cons]
  · intro same
    induction bindings generalizing cursor with
    | nil =>
        apply Yields.done
        rw [next_value, ← same, List.head?_nil]
    | cons binding rest ih =>
        apply Yields.step
        · rw [next_value, ← same, List.head?_cons]
        · apply ih
          rw [next_remaining, ← same, List.tail_cons]

end Cursor

def Namespace.iter (ns : Namespace) : Cursor :=
  Cursor.start ns.groups

end Linkage
