import Linkage.Command.Words
import Linkage.Proofs.Cuts

/-!
Preloads given as arguments. An argument spells a preload if it is the name, an equals sign and the
path, where the path is not empty and the equals sign is the first of the argument; so the name has
none, and the path may have some. Every text spells a preload or lacks a path, and it is read as
the one preload that it spells.
-/

namespace Linkage

namespace Preload

/-- The text is the name, an equals sign and the path, cut at its first equals sign. -/
structure Spells (preload : Preload) (text : String) : Prop where
  text : text = preload.name ++ "=" ++ preload.path
  name : '=' ∉ preload.name.toList
  path : preload.path ≠ ""

/-- Nothing follows the first equals sign of the text, if it has one. -/
inductive LacksPath : String → Prop where
  | noEquals {text : String} (absent : '=' ∉ text.toList) : LacksPath text
  | noPath {name : String} (absent : '=' ∉ name.toList) : LacksPath (name ++ "=")

theorem spells_or_lacksPath (text : String) :
    (∃ preload : Preload, preload.Spells text) ∨ LacksPath text := by
  by_cases found : '=' ∈ text.toList
  · obtain ⟨name, path, cut, absent⟩ := List.eq_append_cons_of_mem found
    have whole : text = String.ofList name ++ "=" ++ String.ofList path := by
      rw [← String.toList_inj, cut]
      simp
    have nameOnly : '=' ∉ (String.ofList name).toList := by rwa [String.toList_ofList]
    cases path with
    | nil =>
        right
        rw [whole, String.ofList_nil, String.append_empty]
        exact .noPath nameOnly
    | cons first rest =>
        left
        exact ⟨⟨String.ofList name, String.ofList (first :: rest)⟩, whole, nameOnly, by simp⟩
  · exact Or.inr (.noEquals found)

variable {preload : Preload} {text : String}

theorem Spells.read (spells : preload.Spells text) : read? text.toList = some preload := by
  have chars : text.toList = preload.name.toList ++ '=' :: preload.path.toList := by
    rw [spells.text]
    simp
  have path : preload.path.toList ≠ [] := by simpa using spells.path
  obtain ⟨first, rest, isPath⟩ := List.exists_cons_of_ne_nil path
  rw [read?, chars, Text.takeWhile_ne_append spells.name, Text.dropWhile_ne_append spells.name,
    isPath]
  simp only [← isPath, String.ofList_toList]

theorem LacksPath.read (lacks : LacksPath text) : read? text.toList = none := by
  cases lacks with
  | noEquals absent => rw [read?, Text.dropWhile_ne_of_not_mem absent]
  | @noPath name absent =>
      have chars : (name ++ "=").toList = name.toList ++ ['='] := by simp
      rw [read?, chars, Text.dropWhile_ne_append absent]

theorem lacksPath_iff : LacksPath text ↔ ¬ ∃ preload : Preload, preload.Spells text := by
  constructor
  · rintro lacks ⟨preload, spells⟩
    cases lacks.read.symm.trans spells.read
  · exact (spells_or_lacksPath text).resolve_left

theorem read?_eq_some_iff : read? text.toList = some preload ↔ preload.Spells text := by
  refine ⟨?_, Spells.read⟩
  intro read
  rcases spells_or_lacksPath text with ⟨other, spells⟩ | lacks
  · rw [spells.read, Option.some.injEq] at read
    exact read ▸ spells
  · rw [lacks.read] at read
    cases read

theorem read?_eq_none_iff : read? text.toList = none ↔ LacksPath text := by
  rw [lacksPath_iff, Option.eq_none_iff_forall_ne_some, not_exists]
  exact forall_congr' fun preload => not_congr read?_eq_some_iff

end Preload

variable {given after : Given} {text : String} {fault : UsageFault}

theorem Given.take_preload_eq_ok_iff :
    given.take .preload (some text) = .ok after ↔ ∃ preload, preload.Spells text ∧
      after = { given with preloads := given.preloads ++ [preload] } := by
  rw [Given.take]
  constructor
  · intro taken
    cases read : Preload.read? text.toList with
    | none => simp [read] at taken
    | some preload =>
        simp only [read, Except.ok.injEq] at taken
        exact ⟨preload, Preload.read?_eq_some_iff.mp read, taken.symm⟩
  · rintro ⟨preload, spells, rfl⟩
    rw [spells.read]

theorem Given.take_preload_eq_error_iff :
    given.take .preload (some text) = .error fault ↔ Preload.LacksPath text ∧
      fault = .badValue ("expected NAME=PATH, got " ++ Text.quote text) := by
  rw [Given.take]
  constructor
  · intro refused
    cases read : Preload.read? text.toList with
    | some preload => simp [read] at refused
    | none =>
        simp only [read, Except.error.injEq] at refused
        exact ⟨Preload.read?_eq_none_iff.mp read, refused.symm⟩
  · rintro ⟨lacks, rfl⟩
    rw [lacks.read]
    rfl

/-- An argument is read as a preload if and only if it is the name, an equals sign and the path,
with no equals sign in the name and a path that is not empty. Every other argument has no equals
sign, or nothing after its first one. As the value of the option, an argument adds its preload to
those given before, and one that spells none is refused with a message that quotes it. -/
theorem preload_arguments_read_exactly (text : String) :
    (∀ preload, Preload.read? text.toList = some preload ↔ preload.Spells text) ∧
    (Preload.read? text.toList = none ↔ ¬ ∃ preload : Preload, preload.Spells text) ∧
    (Preload.read? text.toList = none ↔ Preload.LacksPath text) ∧
    ∀ given : Given,
      (∀ after, given.take .preload (some text) = .ok after ↔ ∃ preload, preload.Spells text ∧
        after = { given with preloads := given.preloads ++ [preload] }) ∧
      ∀ fault, given.take .preload (some text) = .error fault ↔ Preload.LacksPath text ∧
        fault = .badValue ("expected NAME=PATH, got " ++ Text.quote text) := by
  refine ⟨fun _ => Preload.read?_eq_some_iff, ?_, Preload.read?_eq_none_iff, ?_⟩
  · rw [Preload.read?_eq_none_iff, Preload.lacksPath_iff]
  · intro given
    exact ⟨fun _ => Given.take_preload_eq_ok_iff, fun _ => Given.take_preload_eq_error_iff⟩

example :
    ["a=b=c=", "=x.wat", "é=ü", "math", "math=", ""].map (Preload.read? ·.toList) =
      [some ⟨"a", "b=c="⟩, some ⟨"", "x.wat"⟩, some ⟨"é", "ü"⟩, none, none, none] := by
  decide

end Linkage
