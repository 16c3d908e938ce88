import Mathlib.Data.Prod.Lex
import Mathlib.Data.String.Basic
import Linkage.Proofs.EntryOrder

/-!
The order of the keys in the texts of a registry. Texts are compared by their characters, and that
is the order of their bytes. Keys are compared by their module names and then by their names. So a
set of keys has one list in this order, and registries with the same bound keys list them alike,
however they came to be bound and in whatever order they are met.
-/

namespace Linkage

namespace Text

def bytes (text : String) : List UInt8 :=
  text.toUTF8.data.toList

theorem bytes_eq (text : String) : bytes text = text.toList.flatMap String.utf8EncodeChar := by
  rw [bytes, String.toUTF8, ← String.utf8Encode_toList, List.utf8Encode,
    List.toList_data_toByteArray]

/-- At the first byte in which the lists differ, the first of them has the smaller one. -/
def FirstSmaller : List UInt8 → List UInt8 → Prop
  | a :: left, b :: right => a.toNat < b.toNat ∨ a.toNat = b.toNat ∧ FirstSmaller left right
  | _, _ => False

theorem append_lt_append {left right : List UInt8} (smaller : FirstSmaller left right)
    (more others : List UInt8) : left ++ more < right ++ others := by
  induction left generalizing right with
  | nil => cases smaller
  | cons a left ih =>
      cases right with
      | nil => cases smaller
      | cons b right =>
          rw [List.cons_append, List.cons_append, List.cons_lt_cons_iff, UInt8.lt_iff_toNat_lt,
            ← UInt8.toNat_inj]
          exact smaller.imp_right fun ⟨same, later⟩ => ⟨same, ih later⟩

/-- A code of a larger character starts with a larger byte if it is longer, and else its digits to
the base 64 are compared from the first on. -/
theorem utf8EncodeChar_firstSmaller {a b : Char} (lt : a < b) :
    FirstSmaller (String.utf8EncodeChar a) (String.utf8EncodeChar b) := by
  have codes : a.val.toNat < b.val.toNat := lt
  have bound : b.val.toNat < 1114112 := by
    rcases b.valid with low | ⟨_, high⟩
    · exact Nat.lt_trans low (by decide)
    · exact high
  unfold String.utf8EncodeChar
  generalize a.val.toNat = left at *
  generalize b.val.toNat = right at *
  -- Each leading digit comes from the quotient that the next one is the remainder of, so where it
  -- is the same the next one decides.
  have third (code : Nat) : code / 4096 = code / 64 / 64 := by omega
  have fourth (code : Nat) : code / 262144 = code / 64 / 64 / 64 := by omega
  dsimp only
  split_ifs <;> simp only [FirstSmaller, UInt8.toNat_ofNat', third, fourth] <;> omega

theorem flatMap_utf8EncodeChar_lt {left right : List Char} (lt : left < right) :
    left.flatMap String.utf8EncodeChar < right.flatMap String.utf8EncodeChar := by
  induction left generalizing right with
  | nil =>
      cases right with
      | nil => exact absurd lt (List.lt_irrefl [])
      | cons b right =>
          cases code : String.utf8EncodeChar b with
          | nil => exact absurd code String.utf8EncodeChar_ne_nil
          | cons first rest =>
              rw [List.flatMap_cons, code]
              exact List.nil_lt_cons _ _
  | cons a left ih =>
      cases right with
      | nil => exact absurd lt (List.not_lt_nil _)
      | cons b right =>
          rw [List.flatMap_cons, List.flatMap_cons]
          rcases List.cons_lt_cons_iff.mp lt with smaller | ⟨rfl, later⟩
          · exact append_lt_append (utf8EncodeChar_firstSmaller smaller) _ _
          · exact List.append_left_lt (ih later)

theorem bytes_lt {left right : String} (lt : left < right) : bytes left < bytes right := by
  rw [bytes_eq, bytes_eq]
  exact flatMap_utf8EncodeChar_lt (String.lt_iff.mp lt)

end Text

namespace Namespace

def KeyBefore (key other : String × String) : Prop :=
  Text.bytes key.1 < Text.bytes other.1 ∨
    key.1 = other.1 ∧ Text.bytes key.2 < Text.bytes other.2

theorem keyLE_iff {key other : String × String} :
    keyLE key other = true ↔ toLex key ≤ toLex other := by
  simp [keyLE, Prod.Lex.toLex_le_toLex]

theorem keyBefore_of_lt {key other : String × String} (lt : toLex key < toLex other) :
    KeyBefore key other := by
  rcases Prod.Lex.toLex_lt_toLex.mp lt with modules | ⟨same, names⟩
  · exact Or.inl (Text.bytes_lt modules)
  · exact Or.inr ⟨same, Text.bytes_lt names⟩

theorem pairwise_sortedKeys (ns : Namespace) :
    ns.sortedKeys.Pairwise fun key other => toLex key ≤ toLex other := by
  have sorted : ns.sortedKeys.Pairwise fun key other => keyLE key other = true := by
    apply List.pairwise_mergeSort
    · intro one two three
      simp only [keyLE_iff]
      exact le_trans
    · intro one two
      rw [Bool.or_eq_true, keyLE_iff, keyLE_iff]
      exact le_total _ _
  exact sorted.imp keyLE_iff.mp

theorem sortedKeys_perm (ns : Namespace) : ns.sortedKeys.Perm ns.keys :=
  List.mergeSort_perm _ _

variable {ns other : Namespace}

theorem sortedKeys_eq_of_perm (permuted : ns.keys.Perm other.keys) :
    ns.sortedKeys = other.sortedKeys := by
  have sorted : ns.sortedKeys.Perm other.sortedKeys :=
    (ns.sortedKeys_perm.trans permuted).trans other.sortedKeys_perm.symm
  refine sorted.eq_of_pairwise ?_ ns.pairwise_sortedKeys other.pairwise_sortedKeys
  intro key other _ _ before after
  exact toLex.injective (le_antisymm before after)

structure Lists (ns : Namespace) (keys : List (String × String)) : Prop where
  bound : ∀ key, key ∈ keys ↔ ns.contains key.1 key.2 = true
  distinct : keys.Nodup
  increasing : keys.Pairwise KeyBefore

theorem WellFormed.nodup_sortedKeys (formed : ns.WellFormed) : ns.sortedKeys.Nodup :=
  ns.sortedKeys_perm.nodup_iff.mpr formed.nodup_keys

theorem WellFormed.lists_sortedKeys (formed : ns.WellFormed) : ns.Lists ns.sortedKeys where
  bound key := by rw [ns.sortedKeys_perm.mem_iff, formed.mem_keys_iff, contains]
  distinct := formed.nodup_sortedKeys
  increasing := by
    refine (ns.pairwise_sortedKeys.and formed.nodup_sortedKeys).imp fun ordered => ?_
    exact keyBefore_of_lt (lt_of_le_of_ne ordered.1 (toLex.injective.ne ordered.2))

theorem WellFormed.sortedKeys_eq_iff (formed : ns.WellFormed) (otherFormed : other.WellFormed) :
    ns.sortedKeys = other.sortedKeys ↔
      ∀ module name, ns.contains module name = other.contains module name := by
  rw [← formed.perm_keys_iff otherFormed]
  refine ⟨fun same => ?_, sortedKeys_eq_of_perm⟩
  exact ns.sortedKeys_perm.symm.trans (same ▸ other.sortedKeys_perm)

theorem Rearranges.sortedKeys_eq {met : Namespace} (arranged : Rearranges met.groups ns.groups) :
    met.sortedKeys = ns.sortedKeys :=
  sortedKeys_eq_of_perm (arranged.perm_bindings.map _)

end Namespace

end Linkage
