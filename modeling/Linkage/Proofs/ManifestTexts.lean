import Linkage.Proofs.ManifestShape

/-!
Which texts are manifests. A text is taken exactly if its tree has one of the shapes that the
decoder takes, and every other text is a type error. A tree that is taken has the declared shape
exactly if all of its records name their fields and nothing stands behind a pair. The decoder does
not ask for that.
-/

namespace Linkage.Manifest

section
variable {text : String} {manifest : Manifest}

theorem ofText_eq_ok_iff_ofToml :
    ofText text = .ok manifest ↔ ∃ tree, Toml.read text = some tree ∧ ofToml tree = .ok manifest := by
  unfold ofText
  cases Toml.read text with
  | none => simp
  | some tree => cases decoded : ofToml tree <;> simp [decoded]

theorem ofText_eq_ok_iff_shape :
    ofText text = .ok manifest ↔
      ∃ tree, Toml.read text = some tree ∧ Shape .lenient tree manifest := by
  rw [ofText_eq_ok_iff_ofToml]
  refine exists_congr fun tree => and_congr_right fun read => ?_
  exact ofToml_eq_ok_iff (Toml.read_distinct read)

theorem ofText_eq_error {error : TypeError} (failed : ofText text = .error error) :
    ∃ message, error = .manifest message := by
  unfold ofText at failed
  split at failed
  · cases failed
    exact ⟨_, rfl⟩
  · split at failed
    · cases failed
      exact ⟨_, rfl⟩
    · cases failed

end

/-- A record by the names of its fields, in which a pair has no more than two items. -/
def PlainRecord (tree : Toml) : Prop :=
  ∃ form entries, tree = .table form entries ∧
    ∀ pairForm items, ("from", .array pairForm items) ∈ entries → items.length ≤ 2

def Plain (tree : Toml) : Prop :=
  ∀ form entries key listForm items, tree = .table form entries →
    (key, .array listForm items) ∈ entries → ∀ item ∈ items, PlainRecord item

variable {tree : Toml}

theorem PairShape.lenient {pair : String × String} (hasShape : PairShape .declared tree pair) :
    PairShape .lenient tree pair := by
  cases hasShape with
  | texts form first second _ => exact .texts form first second (by simp)

theorem preloadShape_declared_iff {preload : Preload} :
    PreloadShape .declared tree preload ↔ PreloadShape .lenient tree preload ∧ PlainRecord tree := by
  constructor
  · rintro (⟨fields⟩ | contrary)
    · refine ⟨.byName fields, _, _, rfl, fun pairForm items member => ?_⟩
      simp [fields.mem_iff, Preload.entries] at member
    · cases contrary
  · rintro ⟨hasShape, form, entries, rfl, -⟩
    cases hasShape with
    | byName fields => exact .byName fields

theorem aliasShape_declared_iff {copy : Alias} :
    AliasShape .declared tree copy ↔ AliasShape .lenient tree copy ∧ PlainRecord tree := by
  constructor
  · rintro (⟨pair, fields⟩ | contrary)
    · refine ⟨.byName pair.lenient fields, _, _, rfl, fun pairForm items member => ?_⟩
      obtain ⟨form, first, second, exact⟩ := pair
      rw [exact rfl] at fields
      simp only [fields.mem_iff, Alias.entries, List.mem_cons, Prod.mk.injEq, Toml.array.injEq,
        List.not_mem_nil, or_false, reduceCtorEq, and_false, false_or, true_and] at member
      simp [member.2]
    · cases contrary
  · rintro ⟨hasShape, form, entries, rfl, short⟩
    cases hasShape with
    | byName pair fields =>
        obtain @⟨pairForm, first, second, surplus, -⟩ := pair
        have source : ("from", .array pairForm (.string copy.fromModule :: .string copy.fromName ::
            surplus)) ∈ entries := fields.mem_iff.mpr (by simp [Alias.entries])
        have nothingMore : surplus = [] := by simpa using short pairForm _ source
        exact .byName (.texts pairForm _ _ fun _ => nothingMore) fields

theorem ListShape.imp {α : Type} {key : String} {first second : Toml → α → Prop}
    {listed : List (String × Toml)} {records : List α} (listShape : ListShape key first listed records)
    (implies : ∀ form items, (key, .array form items) ∈ listed → ∀ item ∈ items, ∀ record,
      first item record → second item record) : ListShape key second listed records := by
  cases listShape with
  | absent => exact .absent
  | present form each =>
      exact .present form (forall₂_imp_of_mem each (implies form _ List.mem_cons_self))

theorem ListShape.all {α : Type} {key other : String} {shape : Toml → α → Prop}
    {listed : List (String × Toml)} {records : List α} (listShape : ListShape key shape listed records)
    {good : Toml → Prop} (implies : ∀ item record, shape item record → good item)
    {form : ArrayForm} {items : List Toml} (member : (other, .array form items) ∈ listed) :
    ∀ item ∈ items, good item := by
  cases listShape with
  | absent => cases member
  | present listForm each =>
      simp only [List.mem_singleton, Prod.mk.injEq, Toml.array.injEq] at member
      obtain ⟨-, -, rfl⟩ := member
      induction each with
      | nil => simp
      | cons head _ ih =>
          rw [List.forall_mem_cons]
          exact ⟨implies _ _ head, ih⟩

theorem shape_declared_iff :
    Shape .declared tree manifest ↔ Shape .lenient tree manifest ∧ Plain tree := by
  constructor
  · rintro ⟨preloads, aliases, fields, noBase⟩
    constructor
    · refine .table (preloads.imp ?_) (aliases.imp ?_) fields noBase
      · exact fun _ _ _ item _ record hasShape => (preloadShape_declared_iff.mp hasShape).1
      · exact fun _ _ _ item _ record hasShape => (aliasShape_declared_iff.mp hasShape).1
    · rintro form entries key listForm items ⟨⟩ member
      rw [fields.mem_iff, List.mem_append, List.mem_append] at member
      rcases member with (setting | preload) | copy
      · simp [settings] at setting
      · exact preloads.all (fun _ _ hasShape => (preloadShape_declared_iff.mp hasShape).2) preload
      · exact aliases.all (fun _ _ hasShape => (aliasShape_declared_iff.mp hasShape).2) copy
  · rintro ⟨⟨preloads, aliases, fields, noBase⟩, plain⟩
    refine .table (preloads.imp ?_) (aliases.imp ?_) fields noBase
    · intro form items listed item member record hasShape
      refine preloadShape_declared_iff.mpr ⟨hasShape, ?_⟩
      exact plain _ _ "preload" form items rfl (by simp [fields.mem_iff, listed]) item member
    · intro form items listed item member record hasShape
      refine aliasShape_declared_iff.mpr ⟨hasShape, ?_⟩
      exact plain _ _ "alias" form items rfl (by simp [fields.mem_iff, listed]) item member

/-- Of the three texts of this source only two are looked at. The document is taken, although it
does not have the declared shape. -/
theorem ofText_takes_longer_pair :
    let text := "[[alias]]\nmodule = 'env'\nname = 'f'\nfrom = ['math', 'add', 'sub']"
    ofText text = .ok { aliases := [⟨"env", "f", "math", "add"⟩] } ∧
      ∀ tree manifest, Toml.read text = some tree → ¬ Shape .declared tree manifest := by
  intro text
  constructor
  · decide +kernel
  · intro tree manifest read hasShape
    let texts : List Toml := [.string "math", .string "add", .string "sub"]
    let record : Toml := .table .header
      [("module", .string "env"), ("name", .string "f"), ("from", .array .written texts)]
    have isTree : Toml.read text = some (.table .header [("alias", .array .collected [record])]) := by
      decide +kernel
    cases read.symm.trans isTree
    obtain ⟨form, entries, same, short⟩ := (shape_declared_iff.mp hasShape).2 _ _ "alias" .collected
      [record] rfl (by simp) record (by simp)
    simp only [record, Toml.table.injEq] at same
    obtain ⟨rfl, rfl⟩ := same
    have atMostTwo : texts.length ≤ 2 := short .written texts (by simp)
    simp [texts] at atMostTwo

/-- A text is taken exactly if its tree has one of the shapes that the decoder takes, and gives the
manifest that the tree has the shape of. Trees of plain records are taken exactly if they have the
declared shape, and a tree that is taken has it only if its records are plain. Every text that is
not taken is a type error. -/
theorem ofText_accepts_exactly (text : String) :
    (∀ manifest, ofText text = .ok manifest ↔
      ∃ tree, Toml.read text = some tree ∧ Shape .lenient tree manifest) ∧
    (∀ tree manifest, Toml.read text = some tree → Plain tree →
      (ofText text = .ok manifest ↔ Shape .declared tree manifest)) ∧
    (∀ tree manifest, Toml.read text = some tree → ofText text = .ok manifest →
      (Shape .declared tree manifest ↔ Plain tree)) ∧
    ((∀ manifest, ofText text ≠ .ok manifest) →
      ∃ message, ofText text = .error (.manifest message)) := by
  have taken {tree : Toml} (read : Toml.read text = some tree) (manifest : Manifest) :
      ofText text = .ok manifest ↔ Shape .lenient tree manifest := by
    rw [ofText_eq_ok_iff_shape, read]
    simp
  refine ⟨fun manifest => ofText_eq_ok_iff_shape, ?_, ?_, ?_⟩
  · intro tree manifest read plain
    rw [taken read, shape_declared_iff]
    exact (and_iff_left plain).symm
  · intro tree manifest read done
    rw [shape_declared_iff]
    exact and_iff_right ((taken read manifest).mp done)
  · intro refused
    cases failed : ofText text with
    | ok manifest => exact absurd failed (refused manifest)
    | error error =>
        obtain ⟨message, rfl⟩ := ofText_eq_error failed
        exact ⟨message, rfl⟩

/-- An alias with its keys in another order is of the declared shape. A preload by position is
taken, with a third item behind that is no text, and is not of that shape. A setting that is no
truth value is a type error. -/
theorem ofText_of_preload_by_position :
    let named := "[[alias]]\nname = 'f'\nfrom = ['math', 'add']\nmodule = 'env'"
    let placed := "preload = [['math', 'math.wat', 7]]"
    let broken := "allow_shadowing = 2"
    (∃ tree, Toml.read named = some tree ∧ Plain tree ∧
      Shape .declared tree { aliases := [⟨"env", "f", "math", "add"⟩] }) ∧
    (∃ tree, Toml.read placed = some tree ∧ ¬ Plain tree ∧
      ¬ Shape .declared tree { preloads := [⟨"math", "math.wat"⟩] }) ∧
    ∃ message, ofText broken = .error (.manifest message) := by
  intro named placed broken
  obtain ⟨-, declared, -, -⟩ := ofText_accepts_exactly named
  obtain ⟨-, -, strays, -⟩ := ofText_accepts_exactly placed
  obtain ⟨-, -, -, refused⟩ := ofText_accepts_exactly broken
  refine ⟨?_, ?_, refused ?_⟩
  · let record : Toml := .table .header [("name", .string "f"),
      ("from", .array .written [.string "math", .string "add"]), ("module", .string "env")]
    let tree : Toml := .table .header [("alias", .array .collected [record])]
    have read : Toml.read named = some tree := by decide +kernel
    have plain : Plain tree := by
      intro form entries key listForm items same member
      simp only [tree, Toml.table.injEq] at same
      obtain ⟨rfl, rfl⟩ := same
      simp only [List.mem_singleton, Prod.mk.injEq, Toml.array.injEq] at member
      obtain ⟨-, -, rfl⟩ := member
      simp only [List.mem_singleton, forall_eq]
      refine ⟨_, _, rfl, fun pairForm items member => ?_⟩
      simp at member
      simp [member]
    exact ⟨tree, read, plain, (declared tree _ read plain).mp (by decide +kernel)⟩
  · let record : Toml := .array .written [.string "math", .string "math.wat", .integer 7]
    let tree : Toml := .table .header [("preload", .array .written [record])]
    have read : Toml.read placed = some tree := by decide +kernel
    have byPosition : ¬ Plain tree := by
      intro plain
      obtain ⟨_, _, contrary, -⟩ := plain _ _ "preload" .written [record] rfl (by simp) record (by simp)
      simp [record] at contrary
    refine ⟨tree, read, byPosition, fun hasShape => byPosition ?_⟩
    exact (strays tree _ read (by decide +kernel)).mp hasShape
  · have isRefused : (ofText broken).isOk = false := by decide +kernel
    intro manifest done
    rw [done] at isRefused
    cases isRefused

end Linkage.Manifest
