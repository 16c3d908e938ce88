/-!
Lists of named things that keep the order in which names first came.
-/

namespace Linkage

variable {α : Type}

/-- Puts a value under a name: in place of the one it had, or at the end. -/
def putNamed (name : String) (value : α) : List (String × α) → List (String × α)
  | [] => [(name, value)]
  | first :: rest =>
      if first.1 = name then (name, value) :: rest else first :: putNamed name value rest

theorem lookup_putNamed_self (name : String) (value : α) (named : List (String × α)) :
    (putNamed name value named).lookup name = some value := by
  induction named with
  | nil => simp [putNamed]
  | cons first rest ih =>
      rw [putNamed]
      split
      · simp
      · next other =>
        rw [List.lookup_cons, beq_false_of_ne (Ne.symm other)]
        exact ih

theorem lookup_putNamed_of_ne {name other : String} (differs : other ≠ name) (value : α)
    (named : List (String × α)) : (putNamed name value named).lookup other = named.lookup other := by
  induction named with
  | nil => simp [putNamed, List.lookup_cons, beq_false_of_ne differs]
  | cons first rest ih =>
      rw [putNamed]
      split
      · next same =>
        rw [List.lookup_cons, List.lookup_cons, beq_false_of_ne differs, same,
          beq_false_of_ne differs]
      · rw [List.lookup_cons, List.lookup_cons, ih]

end Linkage
