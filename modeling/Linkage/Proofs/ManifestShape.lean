import Linkage.Proofs.DistinctKeys
import Linkage.Proofs.RecordReading

/-!
Which documents are manifests. The shape that manifests are declared in knows records as tables of
their fields, each field once and in any order, and the source of an alias as a pair of texts. The
decoder takes documents of this shape and besides them records whose fields are told by position
alone, and pairs and such records with items behind, which it does not look at. It takes no others.
-/

namespace Linkage

/-- Documents in the declared shape, or with what the decoder also takes. -/
inductive Wording where
  | declared
  | lenient

def Preload.entries (preload : Preload) : List (String × Toml) :=
  [("name", .string preload.name), ("path", .string preload.path)]

def Alias.entries (copy : Alias) (source : Toml) : List (String × Toml) :=
  [("module", .string copy.module), ("name", .string copy.name), ("from", source)]

namespace Manifest

variable (wording : Wording)

/-- A pair of texts. In the declared shape nothing stands behind them. -/
inductive PairShape : Toml → String × String → Prop where
  | texts (form : ArrayForm) (first second : String) {surplus : List Toml}
      (exact : wording = .declared → surplus = []) :
      PairShape (.array form (.string first :: .string second :: surplus)) (first, second)

inductive PreloadShape : Toml → Preload → Prop where
  | byName {form : TableForm} {entries : List (String × Toml)} {preload : Preload}
      (fields : entries.Perm preload.entries) : PreloadShape (.table form entries) preload
  | byPosition (lenient : wording = .lenient) (form : ArrayForm) (preload : Preload)
      (surplus : List Toml) :
      PreloadShape (.array form (.string preload.name :: .string preload.path :: surplus)) preload

inductive AliasShape : Toml → Alias → Prop where
  | byName {form : TableForm} {entries : List (String × Toml)} {copy : Alias} {source : Toml}
      (pair : PairShape wording source (copy.fromModule, copy.fromName))
      (fields : entries.Perm (copy.entries source)) : AliasShape (.table form entries) copy
  | byPosition (lenient : wording = .lenient) (form : ArrayForm) (copy : Alias) {source : Toml}
      (pair : PairShape wording source (copy.fromModule, copy.fromName)) (surplus : List Toml) :
      AliasShape
        (.array form (.string copy.module :: .string copy.name :: source :: surplus)) copy

/-- The entry of a list of records: none for an empty list, or an array of that many records. -/
inductive ListShape {α : Type} (key : String) (shape : Toml → α → Prop) :
    List (String × Toml) → List α → Prop where
  | absent : ListShape key shape [] []
  | present (form : ArrayForm) {items : List Toml} {records : List α}
      (each : List.Forall₂ shape items records) :
      ListShape key shape [(key, .array form items)] records

def settings (manifest : Manifest) : List (String × Toml) :=
  (manifest.allowShadowing.map Toml.boolean).toList.map (("allow_shadowing", ·)) ++
    (manifest.main.map Toml.string).toList.map (("main", ·))

inductive Shape : Toml → Manifest → Prop where
  | table {form : TableForm} {entries preloadEntries aliasEntries : List (String × Toml)}
      {manifest : Manifest}
      (preloads : ListShape "preload" (PreloadShape wording) preloadEntries manifest.preloads)
      (aliases : ListShape "alias" (AliasShape wording) aliasEntries manifest.aliases)
      (fields : entries.Perm (manifest.settings ++ preloadEntries ++ aliasEntries))
      (noBase : manifest.baseDir = none) : Shape (.table form entries) manifest

section
variable {tree : Toml} {form : ArrayForm} {α : Type}

@[simp] theorem decodeString_eq_ok_iff {text : String} :
    decodeString tree = .ok text ↔ tree = .string text := by
  cases tree <;> simp [decodeString]

@[simp] theorem decodePath_eq_ok_iff {path : String} :
    decodePath tree = .ok path ↔ tree = .string path := by
  cases tree <;> simp [decodePath]

@[simp] theorem decodeBool_eq_ok_iff {value : Bool} :
    decodeBool tree = .ok value ↔ tree = .boolean value := by
  cases tree <;> simp [decodeBool]

theorem decodePair_eq_ok_iff {pair : String × String} :
    decodePair tree = .ok pair ↔ PairShape .lenient tree pair := by
  constructor
  · intro done
    cases tree with
    | array form items =>
        rcases items with _ | ⟨first, _ | ⟨second, surplus⟩⟩
        · cases done
        · simp [decodePair, except_bind_eq_ok_iff] at done
        · simp only [decodePair, except_bind_eq_ok_iff, decodeString_eq_ok_iff] at done
          obtain ⟨first, rfl, second, rfl, ⟨⟩⟩ := done
          exact .texts form first second (by simp)
    | _ => cases done
  · rintro ⟨form, first, second, -⟩
    rfl

theorem forall₂_imp_of_mem {first second : Toml → α → Prop} {items : List Toml} {records : List α}
    (each : List.Forall₂ first items records)
    (implies : ∀ item ∈ items, ∀ record, first item record → second item record) :
    List.Forall₂ second items records := by
  induction each with
  | nil => exact .nil
  | cons head _ ih =>
      rw [List.forall_mem_cons] at implies
      exact .cons (implies.1 _ head) (ih implies.2)

theorem mapM_eq_ok_iff {decode : Toml → Decoded α} {items : List Toml} {records : List α} :
    items.mapM decode = .ok records ↔
      List.Forall₂ (fun item record => decode item = .ok record) items records := by
  induction items generalizing records with
  | nil => simp [pure, Except.pure, eq_comm]
  | cons item rest ih =>
      simp only [List.mapM_cons, except_bind_eq_ok_iff, ih, List.forall₂_cons_left_iff]
      constructor
      · rintro ⟨record, head, others, tail, ⟨⟩⟩
        exact ⟨record, others, head, tail, rfl⟩
      · rintro ⟨record, others, head, tail, rfl⟩
        exact ⟨record, head, others, tail, rfl⟩

end

section
variable {form : TableForm} {entries : List (String × Toml)} {tree : Toml}

theorem PreloadFields.finish_eq_ok_iff {fields : PreloadFields} {preload : Preload} :
    fields.finish = .ok preload ↔
      fields.name = some preload.name ∧ fields.path = some preload.path := by
  obtain ⟨name, path⟩ := preload
  unfold finish
  split <;> simp_all

theorem AliasFields.finish_eq_ok_iff {fields : AliasFields} {copy : Alias} :
    fields.finish = .ok copy ↔ fields.module = some copy.module ∧
      fields.name = some copy.name ∧ fields.source = some (copy.fromModule, copy.fromName) := by
  obtain ⟨module, name, fromModule, fromName⟩ := copy
  unfold finish
  split <;> simp_all [Prod.ext_iff]

theorem decodePreload_table_iff {preload : Preload} (distinct : (entries.map Prod.fst).Nodup) :
    decodePreload (.table form entries) = .ok preload ↔ entries.Perm preload.entries := by
  simp only [decodePreload, except_bind_eq_ok_iff, PreloadFields.finish_eq_ok_iff]
  constructor
  · rintro ⟨fields, done, hasName, hasPath⟩
    have name := reads_preload_name.lookup_eq (fun _ _ => decodeString_eq_ok_iff) done distinct rfl
    have path := reads_preload_path.lookup_eq (fun _ _ => decodePath_eq_ok_iff) done distinct rfl
    have ordered := perm_in_order (keys_known readPreloadField_known done) (by decide) distinct
    simpa [Preload.entries, name, path, hasName, hasPath] using ordered
  · intro perm
    obtain ⟨fields, done⟩ : ∃ fields, entries.foldlM readPreloadField {} = .ok fields := by
      apply foldlM_succeeds
      intro entry member record
      simp only [perm.mem_iff, Preload.entries, List.mem_cons, List.not_mem_nil, or_false] at member
      rcases member with rfl | rfl <;> exact ⟨_, rfl⟩
    have name := reads_preload_name.lookup_eq (fun _ _ => decodeString_eq_ok_iff) done distinct rfl
    have path := reads_preload_path.lookup_eq (fun _ _ => decodePath_eq_ok_iff) done distinct rfl
    rw [lookup_eq_of_perm perm distinct] at name path
    have hasName : fields.name = some preload.name := by
      simpa [Preload.entries, eq_comm] using name
    have hasPath : fields.path = some preload.path := by
      simpa [Preload.entries, List.lookup_cons, eq_comm] using path
    exact ⟨fields, done, hasName, hasPath⟩

theorem decodeAlias_table_iff {copy : Alias} (distinct : (entries.map Prod.fst).Nodup) :
    decodeAlias (.table form entries) = .ok copy ↔
      ∃ source, PairShape .lenient source (copy.fromModule, copy.fromName) ∧
        entries.Perm (copy.entries source) := by
  simp only [decodeAlias, except_bind_eq_ok_iff, AliasFields.finish_eq_ok_iff]
  constructor
  · rintro ⟨fields, done, hasModule, hasName, hasSource⟩
    have module :=
      reads_alias_module.lookup_eq (fun _ _ => decodeString_eq_ok_iff) done distinct rfl
    have name := reads_alias_name.lookup_eq (fun _ _ => decodeString_eq_ok_iff) done distinct rfl
    have gives := reads_alias_source.gives done distinct
    have ordered := perm_in_order (keys_known readAliasField_known done) (by decide) distinct
    cases source : entries.lookup "from" with
    | none =>
        rw [source, hasSource] at gives
        cases gives
    | some tree =>
        rw [source, hasSource] at gives
        obtain ⟨pair, decoded, ⟨⟩⟩ := except_map_eq_ok_iff.mp gives
        refine ⟨tree, decodePair_eq_ok_iff.mp decoded, ?_⟩
        simpa [Alias.entries, module, name, source, hasModule, hasName] using ordered
  · rintro ⟨source, pair, perm⟩
    obtain ⟨fields, done⟩ : ∃ fields, entries.foldlM readAliasField {} = .ok fields := by
      apply foldlM_succeeds
      intro entry member record
      simp only [perm.mem_iff, Alias.entries, List.mem_cons, List.not_mem_nil, or_false] at member
      rcases member with rfl | rfl | rfl
      · exact ⟨_, rfl⟩
      · exact ⟨_, rfl⟩
      · exact ⟨_, readAliasField_eq_ok_iff.mpr
          (Or.inr (Or.inr ⟨rfl, _, decodePair_eq_ok_iff.mpr pair, rfl⟩))⟩
    have module :=
      reads_alias_module.lookup_eq (fun _ _ => decodeString_eq_ok_iff) done distinct rfl
    have name := reads_alias_name.lookup_eq (fun _ _ => decodeString_eq_ok_iff) done distinct rfl
    have gives := reads_alias_source.gives done distinct
    rw [lookup_eq_of_perm perm distinct] at module name gives
    have hasModule : fields.module = some copy.module := by
      simpa [Alias.entries, eq_comm] using module
    have hasName : fields.name = some copy.name := by
      simpa [Alias.entries, List.lookup_cons, eq_comm] using name
    have hasSource : fields.source = some (copy.fromModule, copy.fromName) := by
      simpa [Gives, Alias.entries, List.lookup_cons, decodePair_eq_ok_iff.mpr pair, Except.map,
        eq_comm] using gives
    exact ⟨fields, done, hasModule, hasName, hasSource⟩

theorem decodePreload_eq_ok_iff (tree : Toml) (distinct : tree.Distinct) (preload : Preload) :
    decodePreload tree = .ok preload ↔ PreloadShape .lenient tree preload := by
  cases tree with
  | table form entries =>
      rw [decodePreload_table_iff distinct.keys]
      constructor
      · exact .byName
      · rintro ⟨fields⟩
        exact fields
  | array form items =>
      constructor
      · intro done
        rcases items with _ | ⟨name, _ | ⟨path, surplus⟩⟩
        · cases done
        · simp [decodePreload, preloadItems, except_bind_eq_ok_iff] at done
        · simp only [decodePreload, preloadItems, except_bind_eq_ok_iff, decodeString_eq_ok_iff,
            decodePath_eq_ok_iff] at done
          obtain ⟨name, rfl, path, rfl, ⟨⟩⟩ := done
          exact .byPosition rfl form ⟨name, path⟩ surplus
      · rintro ⟨⟩
        rfl
  | _ =>
      constructor
      · intro done
        cases done
      · rintro ⟨⟩

theorem decodeAlias_eq_ok_iff (tree : Toml) (distinct : tree.Distinct) (copy : Alias) :
    decodeAlias tree = .ok copy ↔ AliasShape .lenient tree copy := by
  cases tree with
  | table form entries =>
      rw [decodeAlias_table_iff distinct.keys]
      constructor
      · rintro ⟨source, pair, fields⟩
        exact .byName pair fields
      · rintro ⟨pair, fields⟩
        exact ⟨_, pair, fields⟩
  | array form items =>
      constructor
      · intro done
        rcases items with _ | ⟨module, _ | ⟨name, _ | ⟨source, surplus⟩⟩⟩
        · cases done
        · simp [decodeAlias, aliasItems, except_bind_eq_ok_iff] at done
        · simp [decodeAlias, aliasItems, except_bind_eq_ok_iff] at done
        · simp only [decodeAlias, aliasItems, except_bind_eq_ok_iff, decodeString_eq_ok_iff,
            decodePair_eq_ok_iff] at done
          obtain ⟨module, rfl, name, rfl, ⟨fromModule, fromName⟩, pair, ⟨⟩⟩ := done
          exact .byPosition rfl form ⟨module, name, fromModule, fromName⟩ pair surplus
      · rintro (_ | ⟨_, _, _, pair, _⟩)
        have decoded := decodePair_eq_ok_iff.mpr pair
        simp [decodeAlias, aliasItems, decodeString, decoded, bind, Except.bind, pure, Except.pure]
  | _ =>
      constructor
      · intro done
        cases done
      · rintro ⟨⟩

end

variable {α : Type} {key : String} {decode : Toml → Decoded α} {shape : Toml → α → Prop}
  {form : TableForm} {entries : List (String × Toml)} {records : List α}

theorem decodeList_eq_ok_iff {tree : Toml} (distinct : tree.Distinct)
    (exact : ∀ item : Toml, item.Distinct → ∀ record, decode item = .ok record ↔ shape item record) :
    decodeList decode tree = .ok records ↔
      ∃ form items, tree = .array form items ∧ List.Forall₂ shape items records := by
  cases tree with
  | array form items =>
      rw [decodeList, mapM_eq_ok_iff]
      constructor
      · intro each
        exact ⟨form, items, rfl, forall₂_imp_of_mem each fun item member record =>
          (exact item (distinct.items item member) record).mp⟩
      · rintro ⟨_, _, ⟨⟩, each⟩
        exact forall₂_imp_of_mem each fun item member record =>
          (exact item (distinct.items item member) record).mpr
  | _ => simp [decodeList]

theorem listShape_iff (distinct : Toml.Distinct (.table form entries))
    (exact : ∀ item : Toml, item.Distinct → ∀ record, decode item = .ok record ↔ shape item record) :
    ListShape key shape ((entries.lookup key).toList.map (key, ·)) records ↔
      Gives (decodeList decode) [] (entries.lookup key) records := by
  cases found : entries.lookup key with
  | none =>
      constructor
      · rintro ⟨⟩
        rfl
      · rintro rfl
        exact .absent
  | some tree =>
      rw [Gives, decodeList_eq_ok_iff (distinct.child found) exact]
      constructor
      · intro listed
        cases listed with
        | present form each => exact ⟨form, _, rfl, each⟩
      · rintro ⟨form, items, rfl, each⟩
        exact .present form each

theorem ListShape.lookup_of_ne {listed : List (String × Toml)} {other : String}
    (listShape : ListShape key shape listed records) (differs : other ≠ key) :
    listed.lookup other = none := by
  cases listShape with
  | absent => rfl
  | present form each => simp [List.lookup_cons, beq_false_of_ne differs]

theorem ListShape.eq_lookup {listed : List (String × Toml)}
    (listShape : ListShape key shape listed records) :
    listed = (listed.lookup key).toList.map (key, ·) := by
  cases listShape with
  | absent => rfl
  | present form each => simp

theorem ListShape.decoded {listed : List (String × Toml)}
    (listShape : ListShape key shape listed records)
    (distinct : Toml.Distinct (.table form entries))
    (exact : ∀ item : Toml, item.Distinct → ∀ record, decode item = .ok record ↔ shape item record)
    (found : entries.lookup key = listed.lookup key) :
    Gives (decodeList decode) [] (entries.lookup key) records := by
  rw [listShape.eq_lookup, ← found] at listShape
  exact (listShape_iff distinct exact).mp listShape

theorem settings_lookup (manifest : Manifest) :
    manifest.settings.lookup "allow_shadowing" = manifest.allowShadowing.map .boolean ∧
      manifest.settings.lookup "main" = manifest.main.map .string ∧
      manifest.settings.lookup "preload" = none ∧ manifest.settings.lookup "alias" = none := by
  rw [settings]
  cases manifest.allowShadowing <;> cases manifest.main <;> simp [List.lookup_cons]

theorem ofToml_of_shape {manifest : Manifest} (distinct : Toml.Distinct (.table form entries))
    (hasShape : Shape .lenient (.table form entries) manifest) :
    ofToml (.table form entries) = .ok manifest := by
  obtain @⟨_, _, preloadEntries, aliasEntries, _, preloads, aliases, perm, noBase⟩ := hasShape
  obtain ⟨flagAt, mainAt, preloadAt, aliasAt⟩ := settings_lookup manifest
  -- Where the fields stand does not matter, so they are looked up where `Shape` names them.
  have lookup (key : String) : entries.lookup key =
      ((manifest.settings.lookup key).or (preloadEntries.lookup key)).or
        (aliasEntries.lookup key) := by
    rw [lookup_eq_of_perm perm distinct.keys, List.lookup_append, List.lookup_append]
  have flagFound : entries.lookup "allow_shadowing" = manifest.allowShadowing.map .boolean := by
    rw [lookup, flagAt, preloads.lookup_of_ne (by decide), aliases.lookup_of_ne (by decide)]
    simp
  have mainFound : entries.lookup "main" = manifest.main.map .string := by
    rw [lookup, mainAt, preloads.lookup_of_ne (by decide), aliases.lookup_of_ne (by decide)]
    simp
  have preloadFound : entries.lookup "preload" = preloadEntries.lookup "preload" := by
    rw [lookup, preloadAt, aliases.lookup_of_ne (by decide)]
    simp
  have aliasFound : entries.lookup "alias" = aliasEntries.lookup "alias" := by
    rw [lookup, aliasAt, preloads.lookup_of_ne (by decide)]
    simp
  have preloadsDecoded := preloads.decoded distinct decodePreload_eq_ok_iff preloadFound
  have aliasesDecoded := aliases.decoded distinct decodeAlias_eq_ok_iff aliasFound
  obtain ⟨after, done⟩ : ∃ after, ofToml (.table form entries) = .ok after := by
    apply foldlM_succeeds
    intro entry member record
    rw [perm.mem_iff, List.mem_append, List.mem_append] at member
    rcases member with (setting | preload) | copy
    · simp only [settings, List.mem_append, List.mem_map, Option.mem_toList, Option.map_eq_some_iff]
        at setting
      rcases setting with ⟨_, ⟨allowed, -, rfl⟩, rfl⟩ | ⟨_, ⟨main, -, rfl⟩, rfl⟩ <;> exact ⟨_, rfl⟩
    · rw [preloads.eq_lookup, ← preloadFound] at preload
      obtain ⟨tree, found, rfl⟩ := List.mem_map.mp preload
      rw [Option.mem_toList.mp found] at preloadsDecoded
      exact ⟨_, readField_eq_ok_iff.mpr (Or.inr (Or.inr (Or.inl ⟨rfl, _, preloadsDecoded, rfl⟩)))⟩
    · rw [aliases.eq_lookup, ← aliasFound] at copy
      obtain ⟨tree, found, rfl⟩ := List.mem_map.mp copy
      rw [Option.mem_toList.mp found] at aliasesDecoded
      exact ⟨_, readField_eq_ok_iff.mpr (Or.inr (Or.inr (Or.inr ⟨rfl, _, aliasesDecoded, rfl⟩)))⟩
  have flag := reads_allowShadowing.lookup_eq (fun _ _ => decodeBool_eq_ok_iff) done distinct.keys rfl
  have main := reads_main.lookup_eq (fun _ _ => decodePath_eq_ok_iff) done distinct.keys rfl
  have sameFlag : after.allowShadowing = manifest.allowShadowing :=
    Option.map_injective (fun _ _ => Toml.boolean.inj) (flag.symm.trans flagFound)
  have sameMain : after.main = manifest.main :=
    Option.map_injective (fun _ _ => Toml.string.inj) (main.symm.trans mainFound)
  have samePreloads : after.preloads = manifest.preloads :=
    (reads_preloads.gives done distinct.keys).unique preloadsDecoded
  have sameAliases : after.aliases = manifest.aliases :=
    (reads_aliases.gives done distinct.keys).unique aliasesDecoded
  have sameBase : after.baseDir = manifest.baseDir := by rw [noBase, baseDir_of_ofToml done]
  rw [done]
  cases after
  cases manifest
  simp_all

theorem ofToml_eq_ok_iff {tree : Toml} {manifest : Manifest} (distinct : tree.Distinct) :
    ofToml tree = .ok manifest ↔ Shape .lenient tree manifest := by
  cases tree with
  | table form entries =>
      constructor
      · intro done
        have flag :=
          reads_allowShadowing.lookup_eq (fun _ _ => decodeBool_eq_ok_iff) done distinct.keys rfl
        have main := reads_main.lookup_eq (fun _ _ => decodePath_eq_ok_iff) done distinct.keys rfl
        have preloads := (listShape_iff distinct decodePreload_eq_ok_iff).mpr
          (reads_preloads.gives done distinct.keys)
        have aliases := (listShape_iff distinct decodeAlias_eq_ok_iff).mpr
          (reads_aliases.gives done distinct.keys)
        refine .table preloads aliases ?_ (baseDir_of_ofToml done)
        have ordered := perm_in_order (keys_known readField_known done) (by decide) distinct.keys
        simpa [settings, flag, main] using ordered
      · exact ofToml_of_shape distinct
  | _ =>
      constructor
      · intro done
        cases done
      · rintro ⟨⟩

end Manifest

end Linkage
