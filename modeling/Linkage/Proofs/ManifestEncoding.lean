import Linkage.Proofs.ManifestTexts

/-!
Manifests written as documents. A manifest is written as a table of its settings and of its lists of
records, each record a table again; where the keys stand in a table is free. Decoding gives back
the manifest that was written. A document with one key too many in one of its tables, or without
one that a record needs, is no manifest.
-/

namespace Linkage

def Preload.encode (preload : Preload) : Toml :=
  .table .header preload.entries

def Alias.encode (copy : Alias) : Toml :=
  .table .header
    (copy.entries (.array .written [.string copy.fromModule, .string copy.fromName]))

namespace Manifest

def encodeList (key : String) (records : List Toml) : List (String × Toml) :=
  if records.isEmpty then [] else [(key, .array .collected records)]

def encode (manifest : Manifest) : Toml :=
  .table .header (manifest.settings ++ encodeList "preload" (manifest.preloads.map Preload.encode)
    ++ encodeList "alias" (manifest.aliases.map Alias.encode))

theorem listShape_encode {α : Type} {shape : Toml → α → Prop} {write : α → Toml} (key : String)
    (written : ∀ record, shape (write record) record) (records : List α) :
    ListShape key shape (encodeList key (records.map write)) records := by
  cases records with
  | nil => exact .absent
  | cons first rest =>
      refine .present .collected ?_
      rw [List.forall₂_map_left_iff]
      exact List.forall₂_same.mpr fun record _ => written record

theorem shape_encode {manifest : Manifest} (noBase : manifest.baseDir = none) :
    Shape .declared manifest.encode manifest := by
  refine .table (listShape_encode "preload" ?_ manifest.preloads)
    (listShape_encode "alias" ?_ manifest.aliases) .rfl noBase
  · exact fun preload => .byName .rfl
  · exact fun copy => .byName (.texts .written _ _ fun _ => rfl) .rfl

section
variable {tree : Toml}

theorem distinct_of_perm {form : TableForm} {entries fields : List (String × Toml)}
    (perm : entries.Perm fields) (keys : (fields.map Prod.fst).Nodup)
    (values : ∀ field ∈ fields, field.2.Distinct) : Toml.Distinct (.table form entries) := by
  constructor
  · exact (perm.map Prod.fst).nodup_iff.mpr keys
  · exact fun entry member => values entry (perm.mem_iff.mp member)

theorem PairShape.distinct {pair : String × String} (hasShape : PairShape .declared tree pair) :
    tree.Distinct := by
  obtain ⟨form, first, second, exact⟩ := hasShape
  rw [exact rfl]
  apply Toml.Distinct.array
  rw [List.forall_mem_cons, List.forall_mem_singleton]
  exact ⟨.string first, .string second⟩

theorem PreloadShape.distinct {preload : Preload} (hasShape : PreloadShape .declared tree preload) :
    tree.Distinct := by
  rcases hasShape with ⟨fields⟩ | contrary
  · apply distinct_of_perm fields
    · exact (by decide : ["name", "path"].Nodup)
    · rw [Preload.entries, List.forall_mem_cons, List.forall_mem_singleton]
      exact ⟨.string _, .string _⟩
  · cases contrary

theorem AliasShape.distinct {copy : Alias} (hasShape : AliasShape .declared tree copy) :
    tree.Distinct := by
  rcases hasShape with ⟨pair, fields⟩ | contrary
  · apply distinct_of_perm fields
    · exact (by decide : ["module", "name", "from"].Nodup)
    · rw [Alias.entries, List.forall_mem_cons, List.forall_mem_cons, List.forall_mem_singleton]
      exact ⟨.string _, .string _, pair.distinct⟩
  · cases contrary

theorem ListShape.keys {α : Type} {key : String} {shape : Toml → α → Prop}
    {listed : List (String × Toml)} {records : List α}
    (listShape : ListShape key shape listed records) :
    (listed.map Prod.fst).Sublist [key] := by
  cases listShape with
  | absent => exact List.nil_sublist _
  | present form each => exact List.Sublist.refl _

theorem ListShape.distinct {α : Type} {key : String} {shape : Toml → α → Prop}
    {listed : List (String × Toml)} {records : List α}
    (listShape : ListShape key shape listed records)
    (each : ∀ item record, shape item record → item.Distinct) :
    ∀ entry ∈ listed, entry.2.Distinct := by
  rintro ⟨other, value⟩ member
  have good (form : ArrayForm) (items : List Toml) (same : value = .array form items) :
      ∀ item ∈ items, item.Distinct := by
    rw [same] at member
    exact listShape.all each member
  cases listShape with
  | absent => cases member
  | present form shapes =>
      cases List.mem_singleton.mp member
      exact .array (good form _ rfl)

theorem settings_keys (manifest : Manifest) :
    (manifest.settings.map Prod.fst).Sublist ["allow_shadowing", "main"] := by
  rw [settings]
  cases manifest.allowShadowing <;> cases manifest.main <;> simp

theorem settings_distinct (manifest : Manifest) :
    ∀ entry ∈ manifest.settings, entry.2.Distinct := by
  rw [settings, List.forall_mem_append]
  constructor
  · cases manifest.allowShadowing with
    | none => simp
    | some allowed => simpa using Toml.Distinct.boolean allowed
  · cases manifest.main with
    | none => simp
    | some main => simpa using Toml.Distinct.string main

theorem Shape.distinct {manifest : Manifest} (hasShape : Shape .declared tree manifest) :
    tree.Distinct := by
  obtain ⟨preloads, aliases, fields, -⟩ := hasShape
  apply distinct_of_perm fields
  · have keys := (manifest.settings_keys.append preloads.keys).append aliases.keys
    rw [List.map_append, List.map_append]
    exact List.Nodup.sublist keys (by decide)
  · rw [List.forall_mem_append, List.forall_mem_append]
    refine ⟨⟨manifest.settings_distinct, ?_⟩, ?_⟩
    · exact preloads.distinct fun _ _ hasShape => hasShape.distinct
    · exact aliases.distinct fun _ _ hasShape => hasShape.distinct

end

/-- A key that the table may not have is put somewhere into it, or one that it has to have is taken
out. -/
inductive Spoils (known needed : List String) :
    List (String × Toml) → List (String × Toml) → Prop where
  | added {before after : List (String × Toml)} {key : String} (value : Toml)
      (unknown : key ∉ known) :
      Spoils known needed (before ++ after) (before ++ (key, value) :: after)
  | dropped {before after : List (String × Toml)} {key : String} {value : Toml}
      (isNeeded : key ∈ needed) :
      Spoils known needed (before ++ (key, value) :: after) (before ++ after)

def documentKeys : List String := ["allow_shadowing", "main", "preload", "alias"]

def recordKeys : List (String × List String) :=
  [("preload", ["name", "path"]), ("alias", ["module", "name", "from"])]

inductive SpoilsDocument : Toml → Toml → Prop where
  | document {form : TableForm} {entries spoilt : List (String × Toml)}
      (spoils : Spoils documentKeys [] entries spoilt) :
      SpoilsDocument (.table form entries) (.table form spoilt)
  | record {form recordForm : TableForm} {listForm : ArrayForm} {key : String} {keys : List String}
      {before after fields spoilt : List (String × Toml)} {earlier later : List Toml}
      (isList : (key, keys) ∈ recordKeys) (spoils : Spoils keys keys fields spoilt) :
      SpoilsDocument
        (.table form (before ++
          (key, .array listForm (earlier ++ .table recordForm fields :: later)) :: after))
        (.table form (before ++
          (key, .array listForm (earlier ++ .table recordForm spoilt :: later)) :: after))

variable {known needed : List String} {entries spoilt : List (String × Toml)} {form : TableForm}

def HasKeys (keys : List String) (entries : List (String × Toml)) : Prop :=
  (∀ entry ∈ entries, entry.1 ∈ keys) ∧ ∀ key ∈ keys, key ∈ entries.map Prod.fst

theorem Spoils.not_known (spoils : Spoils known [] entries spoilt) :
    ¬ ∀ entry ∈ spoilt, entry.1 ∈ known := by
  intro allKnown
  cases spoils with
  | @added before after key value unknown => exact unknown (allKnown (key, value) (by simp))
  | dropped isNeeded => cases isNeeded

theorem Spoils.not_hasKeys {keys : List String} (spoils : Spoils keys keys entries spoilt)
    (distinct : (entries.map Prod.fst).Nodup) : ¬ HasKeys keys spoilt := by
  rintro ⟨allKnown, allThere⟩
  cases spoils with
  | @added before after key value unknown => exact unknown (allKnown (key, value) (by simp))
  | @dropped before after key value isNeeded =>
      rw [List.map_append, List.map_cons, List.nodup_middle, List.nodup_cons, ← List.map_append]
        at distinct
      exact distinct.1 (allThere key isNeeded)

theorem decodePreload_hasKeys {preload : Preload}
    (done : decodePreload (.table form entries) = .ok preload) :
    HasKeys ["name", "path"] entries := by
  simp only [decodePreload, except_bind_eq_ok_iff, PreloadFields.finish_eq_ok_iff] at done
  obtain ⟨fields, done, hasName, hasPath⟩ := done
  refine ⟨keys_known readPreloadField_known done, ?_⟩
  rw [List.forall_mem_cons, List.forall_mem_singleton]
  constructor
  · exact reads_preload_name.present done (by simp [hasName])
  · exact reads_preload_path.present done (by simp [hasPath])

theorem decodeAlias_hasKeys {copy : Alias} (done : decodeAlias (.table form entries) = .ok copy) :
    HasKeys ["module", "name", "from"] entries := by
  simp only [decodeAlias, except_bind_eq_ok_iff, AliasFields.finish_eq_ok_iff] at done
  obtain ⟨fields, done, hasModule, hasName, hasSource⟩ := done
  refine ⟨keys_known readAliasField_known done, ?_⟩
  rw [List.forall_mem_cons, List.forall_mem_cons, List.forall_mem_singleton]
  refine ⟨?_, ?_, ?_⟩
  · exact reads_alias_module.present done (by simp [hasModule])
  · exact reads_alias_name.present done (by simp [hasName])
  · exact reads_alias_source.present done (by simp [hasSource])

theorem decodeList_each {α : Type} {decode : Toml → Decoded α} {listForm : ArrayForm}
    {items : List Toml} {records : List α}
    (done : decodeList decode (.array listForm items) = .ok records) :
    ∀ item ∈ items, ∃ record, decode item = .ok record := by
  rw [decodeList, mapM_eq_ok_iff] at done
  induction done with
  | nil => simp
  | cons head _ ih =>
      rw [List.forall_mem_cons]
      exact ⟨⟨_, head⟩, ih⟩

theorem hasKeys_of_listed {manifest : Manifest} {key : String} {keys : List String}
    {listForm : ArrayForm} {recordForm : TableForm} {items : List Toml}
    {fields : List (String × Toml)} (done : ofToml (.table form entries) = .ok manifest)
    (isList : (key, keys) ∈ recordKeys) (listed : (key, .array listForm items) ∈ entries)
    (member : .table recordForm fields ∈ items) : HasKeys keys fields := by
  obtain ⟨before, next, isRead⟩ := each_read done _ listed
  simp only [recordKeys, List.mem_cons, Prod.mk.injEq, List.not_mem_nil, or_false] at isList
  simp only [readField_eq_ok_iff] at isRead
  rcases isList with ⟨rfl, rfl⟩ | ⟨rfl, rfl⟩
  · obtain ⟨records, decoded, -⟩ : ∃ records,
        decodeList decodePreload (.array listForm items) = .ok records ∧ _ := by
      simpa using isRead
    obtain ⟨preload, isPreload⟩ := decodeList_each decoded _ member
    exact decodePreload_hasKeys isPreload
  · obtain ⟨records, decoded, -⟩ : ∃ records,
        decodeList decodeAlias (.array listForm items) = .ok records ∧ _ := by
      simpa using isRead
    obtain ⟨copy, isCopy⟩ := decodeList_each decoded _ member
    exact decodeAlias_hasKeys isCopy

theorem SpoilsDocument.not_decoded {tree spoilt : Toml} (spoils : SpoilsDocument tree spoilt)
    (distinct : tree.Distinct) (manifest : Manifest) : ofToml spoilt ≠ .ok manifest := by
  intro done
  cases spoils with
  | document spoils => exact spoils.not_known (keys_known readField_known done)
  | record isList spoils =>
      -- A key that was taken out of the record is nowhere else in it, since its keys were distinct.
      have listDistinct := distinct.values _ (List.mem_append_right _ List.mem_cons_self)
      have recordDistinct := listDistinct.items _ (List.mem_append_right _ List.mem_cons_self)
      apply spoils.not_hasKeys recordDistinct.keys
      exact hasKeys_of_listed done isList (List.mem_append_right _ List.mem_cons_self)
        (List.mem_append_right _ List.mem_cons_self)

theorem SpoilsDocument.refused {tree spoilt : Toml} (spoils : SpoilsDocument tree spoilt)
    (distinct : tree.Distinct) : ∃ fault, ofToml spoilt = .error fault := by
  cases outcome : ofToml spoilt with
  | ok manifest => exact absurd outcome (spoils.not_decoded distinct manifest)
  | error fault => exact ⟨fault, rfl⟩

/-- Every manifest can be written, and what any document in the declared shape writes is what it is
decoded to: the setting, the main path, the preloads and the aliases in their order, and no
directory. With one key too many, or with one key of a record too few, it is a type error. -/
theorem ofText_undoes_encoding (flag : Option Bool) (main : Option String)
    (preloads : List Preload) (aliases : List Alias) :
    let manifest : Manifest := ⟨flag, main, preloads, aliases, none⟩
    Shape .declared manifest.encode manifest ∧
    ∀ tree, Shape .declared tree manifest →
      ofToml tree = .ok manifest ∧
      (∀ text, Toml.read text = some tree → ofText text = .ok manifest) ∧
      ∀ spoilt, SpoilsDocument tree spoilt →
        (∃ fault, ofToml spoilt = .error fault) ∧
        ∀ text, Toml.read text = some spoilt →
          ∃ message, ofText text = .error (.manifest message) := by
  intro manifest
  refine ⟨shape_encode rfl, fun tree hasShape => ?_⟩
  have distinct := hasShape.distinct
  have decoded := (ofToml_eq_ok_iff distinct).mpr (shape_declared_iff.mp hasShape).1
  refine ⟨decoded, ?_, ?_⟩
  · intro text read
    exact ofText_eq_ok_iff_ofToml.mpr ⟨tree, read, decoded⟩
  · intro spoilt spoils
    obtain ⟨fault, refused⟩ := spoils.refused distinct
    refine ⟨⟨fault, refused⟩, fun text read => ⟨fault.message, ?_⟩⟩
    rw [ofText, read]
    simp only [refused]

/-- A document with the alias in front and with the keys of the records in another order. Without
the name of its preload it is a type error. -/
theorem ofText_of_reordered_keys :
    let preload : Preload := ⟨"math", "math.wat"⟩
    let copy : Alias := ⟨"env", "sum", "math", "add"⟩
    let manifest : Manifest := ⟨some true, none, [preload], [copy], none⟩
    let text := "alias = [\x7b from = ['math', 'add'], name = 'sum', module = 'env' \x7d]\n" ++
      "preload = [\x7b path = 'math.wat', name = 'math' \x7d]\nallow_shadowing = true"
    let nameless := "alias = [\x7b from = ['math', 'add'], name = 'sum', module = 'env' \x7d]\n" ++
      "preload = [\x7b path = 'math.wat' \x7d]\nallow_shadowing = true"
    ∃ tree spoilt, Toml.read text = some tree ∧ Shape .declared tree manifest ∧
      ofText text = .ok manifest ∧ Toml.read nameless = some spoilt ∧ SpoilsDocument tree spoilt ∧
      ∃ message, ofText nameless = .error (.manifest message) := by
  intro preload copy manifest text nameless
  let source : Toml := .array .written [.string "math", .string "add"]
  let copyFields := [("from", source), ("name", .string "sum"), ("module", .string "env")]
  let path : String × Toml := ("path", .string "math.wat")
  let preloadFields := [path, ("name", .string "math")]
  let list (key : String) (fields : List (String × Toml)) : String × Toml :=
    (key, .array .written [.table .inline fields])
  let flag : String × Toml := ("allow_shadowing", .boolean true)
  let tree : Toml := .table .header [list "alias" copyFields, list "preload" preloadFields, flag]
  let spoilt : Toml := .table .header [list "alias" copyFields, list "preload" [path], flag]
  have read : Toml.read text = some tree := by decide +kernel
  have readNameless : Toml.read nameless = some spoilt := by decide +kernel
  have hasShape : Shape .declared tree manifest := by
    have isPreload : PreloadShape .declared (.table .inline preloadFields) preload :=
      .byName (by decide +kernel)
    have isCopy : AliasShape .declared (.table .inline copyFields) copy :=
      .byName (.texts .written _ _ fun _ => rfl) (by decide +kernel)
    have inOrder : List.Perm [list "alias" copyFields, list "preload" preloadFields, flag]
        (manifest.settings ++ [list "preload" preloadFields] ++ [list "alias" copyFields]) := by
      decide +kernel
    exact .table (.present .written (.cons isPreload .nil)) (.present .written (.cons isCopy .nil))
      inOrder rfl
  have spoils : SpoilsDocument tree spoilt := by
    have dropped : Spoils ["name", "path"] ["name", "path"]
        ([path] ++ ("name", .string "math") :: []) ([path] ++ []) := .dropped (by decide)
    exact @SpoilsDocument.record .header .inline .written "preload" _ [list "alias" copyFields]
      [flag] _ _ [] [] (by decide) dropped
  obtain ⟨-, undoes⟩ := ofText_undoes_encoding (some true) none [preload] [copy]
  obtain ⟨-, taken, spoilt_refused⟩ := undoes tree hasShape
  obtain ⟨-, refused⟩ := spoilt_refused spoilt spoils
  exact ⟨tree, spoilt, read, hasShape, taken text read, readNameless, spoils,
    refused nameless readNameless⟩

end Manifest

end Linkage
