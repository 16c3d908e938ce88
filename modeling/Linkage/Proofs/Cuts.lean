import Mathlib.Data.List.TakeWhile

/-!
Texts cut at the first of a mark. Going on while there are other characters stops exactly at the
mark, whatever follows it, and goes through the whole of a text without the mark.
-/

namespace Linkage.Text

variable {mark : Char} {front : List Char}

theorem all_ne_of_not_mem (absent : mark ∉ front) :
    ∀ char ∈ front, decide (char ≠ mark) = true := by
  intro char member
  simpa using ne_of_mem_of_not_mem member absent

theorem takeWhile_ne_append (absent : mark ∉ front) (rest : List Char) :
    (front ++ mark :: rest).takeWhile (· ≠ mark) = front := by
  rw [List.takeWhile_append_of_pos (all_ne_of_not_mem absent),
    List.takeWhile_cons_of_neg (by simp), List.append_nil]

theorem dropWhile_ne_append (absent : mark ∉ front) (rest : List Char) :
    (front ++ mark :: rest).dropWhile (· ≠ mark) = mark :: rest := by
  rw [List.dropWhile_append_of_pos (all_ne_of_not_mem absent),
    List.dropWhile_cons_of_neg (by simp)]

theorem dropWhile_ne_of_not_mem (absent : mark ∉ front) : front.dropWhile (· ≠ mark) = [] :=
  List.dropWhile_eq_nil_iff.mpr (all_ne_of_not_mem absent)

end Linkage.Text
