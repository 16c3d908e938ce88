import Linkage.Manifest.Decode
import Linkage.Proofs.FiniteMap
import Linkage.Proofs.Moves

/-!
Records read entry by entry. The reader of a record goes through the entries of a table and puts
the value of each under the field that has its key. In a table without repeated keys each field
ends with what its own entry gives, or as it was before if the table has no such entry, so the
order of the entries has no say in the record.
-/

namespace Linkage

namespace Manifest

section
variable {Record Value : Type} {read : Record → String × Toml → Decoded Record}
  {part : Record → Value} {key : String} {decode : Toml → Decoded Value}
  {entries : List (String × Toml)} {record after : Record}

/-- The reader puts what an entry with the given key holds into one part of the record, and no
other entry touches that part. -/
structure ReadsField (read : Record → String × Toml → Decoded Record) (part : Record → Value)
    (key : String) (decode : Toml → Decoded Value) : Prop where
  own : ∀ record tree after, read record (key, tree) = .ok after → decode tree = .ok (part after)
  other : ∀ record entry after, entry.1 ≠ key → read record entry = .ok after →
    part after = part record

theorem foldlM_cons_eq_ok_iff {first : String × Toml} :
    (first :: entries).foldlM read record = .ok after ↔
      ∃ middle, read record first = .ok middle ∧ entries.foldlM read middle = .ok after := by
  rw [List.foldlM_cons, except_bind_eq_ok_iff]

theorem ReadsField.kept (reads : ReadsField read part key decode)
    (done : entries.foldlM read record = .ok after) (absent : entries.lookup key = none) :
    part after = part record := by
  induction entries generalizing record with
  | nil =>
      cases done
      rfl
  | cons first rest ih =>
      obtain ⟨middle, head, tail⟩ := foldlM_cons_eq_ok_iff.mp done
      rw [lookup_eq_none_iff_not_mem, List.map_cons, List.mem_cons, not_or] at absent
      rw [ih tail (lookup_eq_none_iff_not_mem.mpr absent.2)]
      exact reads.other record first middle (Ne.symm absent.1) head

theorem ReadsField.present (reads : ReadsField read part key decode)
    (done : entries.foldlM read record = .ok after) (changed : part after ≠ part record) :
    key ∈ entries.map Prod.fst := by
  by_contra absent
  exact changed (reads.kept done (lookup_eq_none_iff_not_mem.mpr absent))

theorem ReadsField.filled (reads : ReadsField read part key decode)
    (done : entries.foldlM read record = .ok after) (distinct : (entries.map Prod.fst).Nodup)
    {tree : Toml} (found : entries.lookup key = some tree) : decode tree = .ok (part after) := by
  induction entries generalizing record with
  | nil => cases found
  | cons first rest ih =>
      obtain ⟨middle, head, tail⟩ := foldlM_cons_eq_ok_iff.mp done
      rw [List.map_cons, List.nodup_cons] at distinct
      by_cases same : key = first.1
      · subst same
        rw [List.lookup_cons_self] at found
        cases found
        -- The rest of the entries has no such key, so it leaves the field alone.
        rw [reads.kept tail (lookup_eq_none_iff_not_mem.mpr distinct.1)]
        exact reads.own record first.2 middle head
      · rw [List.lookup_cons, beq_false_of_ne same] at found
        exact ih tail distinct.2 found

def Gives (decode : Toml → Decoded Value) (unset : Value) : Option Toml → Value → Prop
  | none, value => value = unset
  | some tree, value => decode tree = .ok value

theorem Gives.unique {unset first second : Value} {found : Option Toml}
    (one : Gives decode unset found first) (other : Gives decode unset found second) :
    first = second := by
  cases found with
  | none => exact one.trans other.symm
  | some tree => exact Except.ok.inj (one.symm.trans other)

theorem ReadsField.gives (reads : ReadsField read part key decode)
    (done : entries.foldlM read record = .ok after) (distinct : (entries.map Prod.fst).Nodup) :
    Gives decode (part record) (entries.lookup key) (part after) := by
  cases found : entries.lookup key with
  | none => exact reads.kept done found
  | some tree => exact reads.filled done distinct found

/-- An optional field is set exactly if there is an entry for it, which then writes its value. -/
theorem ReadsField.lookup_eq {part : Record → Option Value} {write : Value → Toml}
    (reads : ReadsField read part key fun tree => (decode tree).map some)
    (written : ∀ tree value, decode tree = .ok value ↔ tree = write value)
    (done : entries.foldlM read record = .ok after) (distinct : (entries.map Prod.fst).Nodup)
    (unset : part record = none) : entries.lookup key = (part after).map write := by
  have gives := reads.gives done distinct
  cases found : entries.lookup key with
  | none =>
      rw [found] at gives
      rw [gives.trans unset]
      rfl
  | some tree =>
      rw [found] at gives
      obtain ⟨value, decoded, isSet⟩ := except_map_eq_ok_iff.mp gives
      simp [← isSet, (written tree value).mp decoded]

theorem each_read (done : entries.foldlM read record = .ok after) :
    ∀ entry ∈ entries, ∃ before next, read before entry = .ok next := by
  induction entries generalizing record with
  | nil => simp
  | cons first rest ih =>
      obtain ⟨middle, head, tail⟩ := foldlM_cons_eq_ok_iff.mp done
      rw [List.forall_mem_cons]
      exact ⟨⟨record, middle, head⟩, ih tail⟩

theorem keys_known {keys : List String}
    (refuses : ∀ record entry after, read record entry = .ok after → entry.1 ∈ keys)
    (done : entries.foldlM read record = .ok after) : ∀ entry ∈ entries, entry.1 ∈ keys := by
  intro entry member
  obtain ⟨before, next, isRead⟩ := each_read done entry member
  exact refuses before entry next isRead

/-- If every entry can be read, whatever the record holds so far, all can be read. -/
theorem foldlM_succeeds
    (readable : ∀ entry ∈ entries, ∀ record, ∃ after, read record entry = .ok after) :
    ∃ after, entries.foldlM read record = .ok after := by
  induction entries generalizing record with
  | nil => exact ⟨record, rfl⟩
  | cons first rest ih =>
      rw [List.forall_mem_cons] at readable
      obtain ⟨middle, head⟩ := readable.1 record
      obtain ⟨after, tail⟩ := @ih middle readable.2
      exact ⟨after, foldlM_cons_eq_ok_iff.mpr ⟨middle, head, tail⟩⟩

end

theorem readPreloadField_eq_ok_iff {fields after : PreloadFields} {entry : String × Toml} :
    readPreloadField fields entry = .ok after ↔
      (entry.1 = "name" ∧ ∃ name, decodeString entry.2 = .ok name ∧
        { fields with name := some name } = after) ∨
      (entry.1 = "path" ∧ ∃ path, decodePath entry.2 = .ok path ∧
        { fields with path := some path } = after) := by
  unfold readPreloadField
  split
  · next key => simp [key, except_map_eq_ok_iff]
  · next key => simp [key, except_map_eq_ok_iff]
  · next other notName notPath => simp [show ¬ _ from notName, show ¬ _ from notPath]

theorem readAliasField_eq_ok_iff {fields after : AliasFields} {entry : String × Toml} :
    readAliasField fields entry = .ok after ↔
      (entry.1 = "module" ∧ ∃ module, decodeString entry.2 = .ok module ∧
        { fields with module := some module } = after) ∨
      (entry.1 = "name" ∧ ∃ name, decodeString entry.2 = .ok name ∧
        { fields with name := some name } = after) ∨
      (entry.1 = "from" ∧ ∃ source, decodePair entry.2 = .ok source ∧
        { fields with source := some source } = after) := by
  unfold readAliasField
  split
  · next key => simp [key, except_map_eq_ok_iff]
  · next key => simp [key, except_map_eq_ok_iff]
  · next key => simp [key, except_map_eq_ok_iff]
  · next other notModule notName notFrom =>
    simp [show ¬ _ from notModule, show ¬ _ from notName, show ¬ _ from notFrom]

theorem readField_eq_ok_iff {manifest after : Manifest} {entry : String × Toml} :
    readField manifest entry = .ok after ↔
      (entry.1 = "allow_shadowing" ∧ ∃ allowed, decodeBool entry.2 = .ok allowed ∧
        { manifest with allowShadowing := some allowed } = after) ∨
      (entry.1 = "main" ∧ ∃ main, decodePath entry.2 = .ok main ∧
        { manifest with main := some main } = after) ∨
      (entry.1 = "preload" ∧ ∃ preloads, decodeList decodePreload entry.2 = .ok preloads ∧
        { manifest with preloads := preloads } = after) ∨
      (entry.1 = "alias" ∧ ∃ aliases, decodeList decodeAlias entry.2 = .ok aliases ∧
        { manifest with aliases := aliases } = after) := by
  unfold readField
  split
  · next key => simp [key, except_map_eq_ok_iff]
  · next key => simp [key, except_map_eq_ok_iff]
  · next key => simp [key, except_map_eq_ok_iff]
  · next key => simp [key, except_map_eq_ok_iff]
  · next other notFlag notMain notPreload notAlias =>
    simp [show ¬ _ from notFlag, show ¬ _ from notMain, show ¬ _ from notPreload,
      show ¬ _ from notAlias]

theorem reads_preload_name : ReadsField readPreloadField PreloadFields.name "name" fun tree =>
    (decodeString tree).map some := by
  constructor <;> simp only [readPreloadField_eq_ok_iff] <;> grind [except_map_eq_ok_iff]

theorem reads_preload_path : ReadsField readPreloadField PreloadFields.path "path" fun tree =>
    (decodePath tree).map some := by
  constructor <;> simp only [readPreloadField_eq_ok_iff] <;> grind [except_map_eq_ok_iff]

theorem reads_alias_module : ReadsField readAliasField AliasFields.module "module" fun tree =>
    (decodeString tree).map some := by
  constructor <;> simp only [readAliasField_eq_ok_iff] <;> grind [except_map_eq_ok_iff]

theorem reads_alias_name : ReadsField readAliasField AliasFields.name "name" fun tree =>
    (decodeString tree).map some := by
  constructor <;> simp only [readAliasField_eq_ok_iff] <;> grind [except_map_eq_ok_iff]

theorem reads_alias_source : ReadsField readAliasField AliasFields.source "from" fun tree =>
    (decodePair tree).map some := by
  constructor <;> simp only [readAliasField_eq_ok_iff] <;> grind [except_map_eq_ok_iff]

theorem reads_allowShadowing : ReadsField readField Manifest.allowShadowing "allow_shadowing"
    fun tree => (decodeBool tree).map some := by
  constructor <;> simp only [readField_eq_ok_iff] <;> grind [except_map_eq_ok_iff]

theorem reads_main : ReadsField readField Manifest.main "main" fun tree =>
    (decodePath tree).map some := by
  constructor <;> simp only [readField_eq_ok_iff] <;> grind [except_map_eq_ok_iff]

theorem reads_preloads : ReadsField readField Manifest.preloads "preload"
    (decodeList decodePreload) := by
  constructor <;> simp only [readField_eq_ok_iff] <;> grind

theorem reads_aliases : ReadsField readField Manifest.aliases "alias"
    (decodeList decodeAlias) := by
  constructor <;> simp only [readField_eq_ok_iff] <;> grind

theorem readPreloadField_known (fields : PreloadFields) (entry : String × Toml)
    (after : PreloadFields) (done : readPreloadField fields entry = .ok after) :
    entry.1 ∈ ["name", "path"] := by
  rcases readPreloadField_eq_ok_iff.mp done with ⟨key, -⟩ | ⟨key, -⟩ <;> simp [key]

theorem readAliasField_known (fields : AliasFields) (entry : String × Toml) (after : AliasFields)
    (done : readAliasField fields entry = .ok after) : entry.1 ∈ ["module", "name", "from"] := by
  rcases readAliasField_eq_ok_iff.mp done with ⟨key, -⟩ | ⟨key, -⟩ | ⟨key, -⟩ <;> simp [key]

theorem readField_known (manifest : Manifest) (entry : String × Toml) (after : Manifest)
    (done : readField manifest entry = .ok after) :
    entry.1 ∈ ["allow_shadowing", "main", "preload", "alias"] := by
  rcases readField_eq_ok_iff.mp done with ⟨key, -⟩ | ⟨key, -⟩ | ⟨key, -⟩ | ⟨key, -⟩ <;> simp [key]

theorem baseDir_of_ofToml {tree : Toml} {manifest : Manifest}
    (done : ofToml tree = .ok manifest) : manifest.baseDir = none := by
  have kept : ∀ (entries : List (String × Toml)) (start : Manifest),
      entries.foldlM readField start = .ok manifest → manifest.baseDir = start.baseDir := by
    intro entries
    induction entries with
    | nil =>
        rintro start ⟨⟩
        rfl
    | cons first rest ih =>
        intro start folded
        obtain ⟨middle, head, tail⟩ := foldlM_cons_eq_ok_iff.mp folded
        rw [ih middle tail]
        rcases readField_eq_ok_iff.mp head with
          ⟨-, _, -, rfl⟩ | ⟨-, _, -, rfl⟩ | ⟨-, _, -, rfl⟩ | ⟨-, _, -, rfl⟩ <;> rfl
  cases tree with
  | table form entries => exact kept entries {} done
  | _ => cases done

end Manifest

end Linkage
