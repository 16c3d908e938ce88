import Linkage.Proofs.FiniteMap
import Linkage.Toml.Read

/-!
No table of a document has a key twice. A key is added to a table only if it is not there yet, and
whatever else changes a table puts a new value in the place of an old one or takes an entry out. So
every tree that reading a text gives has distinct keys in all of its tables.
-/

namespace Linkage

/-- In no table of the tree does a key come twice. -/
inductive Toml.Distinct : Toml → Prop where
  | string (value : String) : Distinct (.string value)
  | integer (value : Int) : Distinct (.integer value)
  | float (bits : Nat) : Distinct (.float bits)
  | boolean (value : Bool) : Distinct (.boolean value)
  | moment (text : String) : Distinct (.moment text)
  | array {form : ArrayForm} {items : List Toml} (items_distinct : ∀ item ∈ items, Distinct item) :
      Distinct (.array form items)
  | table {form : TableForm} {entries : List (String × Toml)}
      (keys : (entries.map Prod.fst).Nodup) (values : ∀ entry ∈ entries, Distinct entry.2) :
      Distinct (.table form entries)

namespace Toml

variable {form : TableForm} {entries : List (String × Toml)} {key : String} {value : Toml}

theorem Distinct.empty (form : TableForm) : Distinct (.table form []) :=
  .table List.nodup_nil (by simp)

theorem Distinct.keys (distinct : Distinct (.table form entries)) :
    (entries.map Prod.fst).Nodup := by
  cases distinct with
  | table keys _ => exact keys

theorem Distinct.values (distinct : Distinct (.table form entries)) :
    ∀ entry ∈ entries, entry.2.Distinct := by
  cases distinct with
  | table _ values => exact values

theorem Distinct.items {form : ArrayForm} {items : List Toml}
    (distinct : Distinct (.array form items)) : ∀ item ∈ items, item.Distinct := by
  cases distinct with
  | array items => exact items

theorem Distinct.child (distinct : Distinct (.table form entries))
    (found : entries.lookup key = some value) : value.Distinct :=
  distinct.values (key, value) (mem_of_lookup found)

theorem Distinct.reform (distinct : Distinct (.table form entries)) (other : TableForm) :
    Distinct (.table other entries) :=
  .table distinct.keys distinct.values

theorem Distinct.append (distinct : Distinct (.table form entries))
    (absent : entries.lookup key = none) (added : value.Distinct) :
    Distinct (.table form (entries ++ [(key, value)])) := by
  have unnamed : key ∉ entries.map Prod.fst := lookup_eq_none_iff_not_mem.mp absent
  constructor
  · rw [List.map_append, List.nodup_append]
    refine ⟨distinct.keys, by simp, ?_⟩
    intro first member second last same
    simp only [List.map_cons, List.map_nil, List.mem_singleton] at last
    exact unnamed (last ▸ same ▸ member)
  · rw [List.forall_mem_append, List.forall_mem_singleton]
    exact ⟨distinct.values, added⟩

theorem Distinct.put (distinct : Distinct (.table form entries)) (changed : value.Distinct) :
    Distinct (.table form (putNamed key value entries)) := by
  constructor
  · exact nodup_putNamed distinct.keys
  · intro entry member
    rcases mem_putNamed member with new | old
    · rw [new]
      exact changed
    · exact distinct.values entry old

theorem Distinct.filter (distinct : Distinct (.table form entries))
    (keep : String × Toml → Bool) : Distinct (.table form (entries.filter keep)) := by
  constructor
  · exact distinct.keys.sublist (List.filter_sublist.map Prod.fst)
  · intro entry member
    exact distinct.values entry (List.mem_of_mem_filter member)

variable {α : Type} {result : α → Prop} {action : Toml → Option (Toml × α)}

/-- Of a tree with distinct keys the action makes another one, and its answer is as said. -/
def Keeps (action : Toml → Option (Toml × α)) (result : α → Prop) : Prop :=
  ∀ tree changed answer, tree.Distinct → action tree = some (changed, answer) →
    changed.Distinct ∧ result answer

theorem descend_keeps (missing : TableForm) (keeps : Keeps action result) (path : List String) :
    Keeps (descend missing action path) result := by
  induction path with
  | nil => exact keeps
  | cons key rest ih =>
      intro tree changed answer distinct done
      cases tree with
      | table form entries =>
          have below (child : Toml) (rebuild : Toml → Toml) (childDistinct : child.Distinct)
              (rebuilds : ∀ inner : Toml, inner.Distinct → (rebuild inner).Distinct)
              (mapped : (descend missing action rest child).map (fun found =>
                (Toml.table form (putNamed key (rebuild found.1) entries), found.2)) =
                  some (changed, answer)) : changed.Distinct ∧ result answer := by
            obtain ⟨⟨inner, _⟩, found, equal⟩ := Option.map_eq_some_iff.mp mapped
            cases equal
            obtain ⟨innerDistinct, good⟩ := ih child inner _ childDistinct found
            exact ⟨distinct.put (rebuilds inner innerDistinct), good⟩
          simp only [descend] at done
          -- The cases are those of what the key has: nothing, an array of tables, or a table.
          split at done
          · exact below _ id (.empty missing) (fun _ inner => inner) done
          · next items found =>
            have itemsDistinct := (distinct.child found).items
            split at done
            · cases done
            · next last isLast =>
              have lastDistinct := itemsDistinct last (List.mem_of_getLast? isLast)
              refine below last (fun inner => .array .collected (items.dropLast ++ [inner]))
                lastDistinct ?_ done
              intro inner innerDistinct
              constructor
              rw [List.forall_mem_append, List.forall_mem_singleton]
              have earlier (item : Toml) (member : item ∈ items.dropLast) : item.Distinct :=
                itemsDistinct item (List.mem_of_mem_dropLast member)
              exact ⟨earlier, innerDistinct⟩
          · cases done
          · next child found =>
            split at done
            · cases done
            · exact below _ id (distinct.child found) (fun _ inner => inner) done
          · next found =>
            exact below _ id (distinct.child found) (fun _ inner => inner) done
          · cases done
      | _ => cases done

theorem descend_distinct {missing : TableForm} {path : List String} {tree changed : Toml}
    (keeps : Keeps action result) (distinct : tree.Distinct)
    (done : (descend missing action path tree).map Prod.fst = some changed) : changed.Distinct := by
  obtain ⟨⟨_, answer⟩, descended, rfl⟩ := Option.map_eq_some_iff.mp done
  exact (descend_keeps missing keeps path tree _ answer distinct descended).1

theorem addEntry_keeps (key : String) {value : Toml} (added : value.Distinct) :
    Keeps (addEntry key value) fun _ => True := by
  intro tree changed answer distinct done
  cases tree with
  | table form entries =>
      cases absent : entries.lookup key with
      | none =>
          simp only [addEntry, absent] at done
          cases done
          exact ⟨distinct.append absent added, trivial⟩
      | some old => simp [addEntry, absent] at done
  | _ => cases done

theorem takeEntry_keeps (key : String) :
    Keeps (takeEntry key) fun earlier => ∀ taken, earlier = some taken → taken.Distinct := by
  intro tree changed answer distinct done
  cases tree with
  | table form entries =>
      cases done
      exact ⟨distinct.filter _, fun taken found => distinct.child found⟩
  | _ => cases done

theorem addElement_keeps (key : String) {element : Toml} (added : element.Distinct) :
    Keeps (addElement key element) fun _ => True := by
  intro tree changed answer distinct done
  cases tree with
  | table form entries =>
      simp only [addElement] at done
      split at done
      · next absent =>
        cases done
        exact ⟨distinct.append absent (.array (by simpa using added)), trivial⟩
      · next items found =>
        cases done
        refine ⟨distinct.put (.array ?_), trivial⟩
        rw [List.forall_mem_append, List.forall_mem_singleton]
        exact ⟨(distinct.child found).items, added⟩
      · cases done
  | _ => cases done

theorem Distinct.addValue {tree changed value : Toml} {path : List String} {key : String}
    (distinct : tree.Distinct) (added : value.Distinct)
    (done : tree.addValue path key value = some changed) : changed.Distinct := by
  refine descend_distinct (?_ : Keeps _ fun _ => True) distinct done
  intro inner after answer innerDistinct innerDone
  cases inner with
  | table form entries =>
      dsimp only at innerDone
      split at innerDone
      · cases innerDone
      · exact addEntry_keeps key added _ after answer innerDistinct innerDone
  | _ => cases innerDone

theorem Distinct.opened {earlier : Option Toml} {table : Toml}
    (distinct : ∀ taken, earlier = some taken → taken.Distinct)
    (done : Toml.opened earlier = some table) : table.Distinct := by
  unfold Toml.opened at done
  split at done
  · cases done
    exact .empty .header
  · next entries =>
    cases done
    exact (distinct _ rfl).reform .header
  · cases done

end Toml

namespace TomlDraft

structure Distinct (draft : TomlDraft) : Prop where
  root : draft.root.Distinct
  current : draft.current.Distinct

variable {draft after : TomlDraft} {path : List String} {key : String}

theorem Distinct.close {tree : Toml} (distinct : draft.Distinct)
    (done : draft.close = some tree) : tree.Distinct := by
  unfold TomlDraft.close at done
  split at done
  · cases done
    exact distinct.current
  · next key _ =>
    split at done
    · exact Toml.descend_distinct (Toml.addElement_keeps key distinct.current) distinct.root done
    · exact Toml.descend_distinct (Toml.addEntry_keeps key distinct.current) distinct.root done

theorem Distinct.openTable (distinct : draft.Distinct)
    (done : draft.openTable path key = some after) : after.Distinct := by
  simp only [TomlDraft.openTable, Option.bind_eq_bind, Option.bind_eq_some_iff] at done
  obtain ⟨closed, isClosed, ⟨root, earlier⟩, taken, current, isOpened, ⟨⟩⟩ := done
  obtain ⟨rootDistinct, earlierDistinct⟩ := Toml.descend_keeps .implied
    (Toml.takeEntry_keeps key) path closed root earlier (distinct.close isClosed) taken
  exact ⟨rootDistinct, .opened earlierDistinct isOpened⟩

theorem Distinct.openElement (distinct : draft.Distinct)
    (done : draft.openElement path key = some after) : after.Distinct := by
  simp only [TomlDraft.openElement, Option.bind_eq_bind, Option.bind_eq_some_iff] at done
  obtain ⟨closed, isClosed, ⟨root, answer⟩, reserved, ⟨⟩⟩ := done
  refine ⟨(Toml.descend_keeps .implied (?_ : Toml.Keeps _ fun _ => True) path closed root answer
    (distinct.close isClosed) reserved).1, .empty .header⟩
  intro inner changed answer innerDistinct innerDone
  cases inner with
  | table form entries =>
      dsimp only at innerDone
      split at innerDone
      · next absent =>
        cases innerDone
        exact ⟨innerDistinct.append absent (.array (by simp)), trivial⟩
      · cases innerDone
        exact ⟨innerDistinct, trivial⟩
      · cases innerDone
  | _ => cases innerDone

theorem Distinct.addValue {value : Toml} (distinct : draft.Distinct) (added : value.Distinct)
    (done : draft.addValue path key value = some after) : after.Distinct := by
  obtain ⟨current, changed, rfl⟩ := Option.map_eq_some_iff.mp done
  exact ⟨distinct.root, distinct.current.addValue added changed⟩

end TomlDraft

namespace Reader

variable {α β : Type} {found : α → Prop} {good : β → Prop} {first : Reader α} {rest : α → Reader β}

def Yields (good : α → Prop) (reader : Reader α) : Prop :=
  ∀ text value rest, reader text = some (value, rest) → good value

theorem yields_pure {value : β} (isGood : good value) : Yields good (pure value) := by
  rintro text _ _ ⟨⟩
  exact isGood

theorem yields_failure : Yields good failure := by
  rintro text value rest ⟨⟩

theorem yields_bind (yields : Yields found first)
    (restYields : ∀ value, found value → Yields good (rest value)) :
    Yields good (first >>= rest) := by
  intro text value remaining done
  obtain ⟨⟨middle, later⟩, head, tail⟩ := Option.bind_eq_some_iff.mp done
  exact restYields middle (yields text middle later head) later value remaining tail

theorem yields_after (restYields : ∀ value, Yields good (rest value)) :
    Yields good (first >>= rest) :=
  yields_bind (fun _ _ _ _ => trivial : Yields (fun _ => True) first) fun value _ =>
    restYields value

theorem yields_orElse {left right : Reader β} (leftYields : Yields good left)
    (rightYields : Yields good right) : Yields good (left <|> right) := by
  intro text value remaining done
  cases tried : left text with
  | none =>
      apply rightYields text value remaining
      simpa [HOrElse.hOrElse, OrElse.orElse, Alternative.orElse, StateT.orElse, tried] using done
  | some result =>
      apply leftYields text value remaining
      simpa [HOrElse.hOrElse, OrElse.orElse, Alternative.orElse, StateT.orElse, tried] using done

end Reader

namespace TomlText

open Reader

theorem inRange_distinct (value : Int) : Yields Toml.Distinct (inRange value) := by
  unfold inRange
  split
  · exact yields_pure (.integer value)
  · exact yields_failure

theorem basedInteger_distinct (mark : Char) (base : Nat) :
    Yields Toml.Distinct (basedInteger mark base) := by
  intro text
  refine yields_after (fun _ => ?_) text
  exact yields_after fun read => inRange_distinct _

theorem special_distinct (negative : Bool) (word : String) (bits : Nat) :
    Yields Toml.Distinct (special negative word bits) :=
  yields_after fun _ => yields_pure (.float _)

theorem floatOf_distinct (negative : Bool) (digits : List Char) (power : Int) :
    Yields Toml.Distinct (floatOf negative digits power) := by
  unfold floatOf
  dsimp only
  split
  · exact yields_failure
  · exact yields_pure (.float _)

theorem decimalNumber_distinct (negative : Bool) :
    Yields Toml.Distinct (decimalNumber negative) := by
  unfold decimalNumber
  refine yields_after fun whole => yields_after fun next => ?_
  split
  · refine yields_after fun places => yields_after fun exponentMark => ?_
    dsimp only
    split <;> exact yields_after fun power => floatOf_distinct negative _ _
  · exact yields_after fun power => floatOf_distinct negative _ _
  · exact yields_after fun power => floatOf_distinct negative _ _
  · exact inRange_distinct _

theorem number_distinct : Yields Toml.Distinct number := by
  refine yields_orElse (basedInteger_distinct 'x' 16) ?_
  refine yields_orElse (basedInteger_distinct 'o' 8) ?_
  refine yields_orElse (basedInteger_distinct 'b' 2) ?_
  refine yields_after fun negative => ?_
  exact yields_orElse (special_distinct negative _ _)
    (yields_orElse (special_distinct negative _ _) (decimalNumber_distinct negative))

theorem moment_distinct : Yields Toml.Distinct moment := by
  intro text
  refine yields_after (fun _ => ?_) text
  exact yields_after fun rest => yields_pure (.moment _)

/-- By induction on the bound of the steps, for a value, the items of an array and the entries of
an inline table at once. -/
theorem value_distinct (fuel : Nat) :
    (∀ depth, Yields Toml.Distinct (value depth fuel)) ∧
    (∀ depth, Yields (fun items => ∀ item ∈ items, item.Distinct) (arrayItems depth fuel)) ∧
    ∀ depth table, table.Distinct → Yields Toml.Distinct (inlineEntries depth table fuel) := by
  induction fuel with
  | zero => exact ⟨fun _ => yields_failure, fun _ => yields_failure, fun _ _ _ => yields_failure⟩
  | succ fuel ih =>
      obtain ⟨values, arrays, inlines⟩ := ih
      refine ⟨fun depth => ?_, fun depth => ?_, fun depth table distinct => ?_⟩
      · rw [value.eq_def]
        refine yields_after fun next => ?_
        split
        · exact yields_after fun text => yields_pure (.string text)
        · exact yields_after fun text => yields_pure (.string text)
        · exact yields_after fun _ => yields_pure (.boolean true)
        · exact yields_after fun _ => yields_pure (.boolean false)
        · cases depth with
          | zero => exact yields_failure
          | succ inner =>
              refine yields_after fun _ => ?_
              exact yields_bind (arrays inner) fun items distinct => yields_pure (.array distinct)
        · cases depth with
          | zero => exact yields_failure
          | succ inner =>
              refine yields_after fun _ => yields_after fun _ => yields_after fun closing => ?_
              split
              · exact yields_after fun _ => yields_pure (.empty .inline)
              · exact inlines inner _ (.empty .inline)
        · exact yields_orElse moment_distinct number_distinct
      · rw [arrayItems]
        refine yields_after fun _ => yields_after fun _ => yields_after fun closing => ?_
        split
        · exact yields_after fun _ => yields_pure (by simp)
        · refine yields_bind (values depth) fun item itemDistinct => ?_
          refine yields_after fun _ => yields_after fun _ => yields_after fun comma => ?_
          split
          · refine yields_after fun _ => yields_bind (arrays depth) fun rest restDistinct => ?_
            exact yields_pure (by simpa using ⟨itemDistinct, restDistinct⟩)
          · exact yields_after fun _ => yields_pure (by simpa using itemDistinct)
      · rw [inlineEntries]
        refine yields_after fun ⟨path, last⟩ => yields_after fun _ => yields_after fun _ => ?_
        refine yields_bind (values depth) fun read readDistinct => yields_after fun _ => ?_
        split
        · exact yields_failure
        · next larger added =>
          have largerDistinct := distinct.addValue readDistinct added
          refine yields_after fun comma => ?_
          split
          · exact yields_after fun _ => inlines depth larger largerDistinct
          · exact yields_after fun _ => yields_pure largerDistinct

theorem settled_distinct (changed : Option TomlDraft) :
    (∀ draft, changed = some draft → draft.Distinct) →
      Yields TomlDraft.Distinct (match changed with
        | none => failure
        | some draft => pure draft) := by
  intro distinct
  cases changed with
  | none => exact yields_failure
  | some draft => exact yields_pure (distinct draft rfl)

variable {draft : TomlDraft}

theorem assignment_distinct (distinct : draft.Distinct) :
    Yields TomlDraft.Distinct (assignment draft) := by
  refine yields_after fun ⟨path, last⟩ => yields_after fun _ => yields_after fun _ => ?_
  refine yields_after fun text => ?_
  refine yields_bind ((value_distinct _).1 _) fun read readDistinct => yields_after fun _ => ?_
  exact settled_distinct _ fun _ => distinct.addValue readDistinct

theorem header_distinct (distinct : draft.Distinct) :
    Yields TomlDraft.Distinct (header draft) := by
  simp only [header, pure_bind]
  refine yields_after fun _ => yields_after fun next => ?_
  split
  · refine yields_after fun _ => yields_after fun ⟨path, last⟩ => yields_after fun _ => ?_
    exact yields_after fun _ => settled_distinct _ fun _ => distinct.openElement
  · refine yields_after fun ⟨path, last⟩ => yields_after fun _ => yields_after fun _ => ?_
    exact settled_distinct _ fun _ => distinct.openTable

theorem statements_distinct (fuel : Nat) (distinct : draft.Distinct) :
    Yields TomlDraft.Distinct (statements draft fuel) := by
  induction fuel generalizing draft with
  | zero => exact yields_failure
  | succ fuel ih =>
      refine yields_after fun _ => yields_after fun next => ?_
      split
      · exact yields_pure distinct
      · exact yields_after fun _ => ih distinct
      · exact yields_after fun _ => ih distinct
      · exact yields_after fun _ => ih distinct
      · exact yields_bind (header_distinct distinct) fun _ => ih
      · exact yields_bind (assignment_distinct distinct) fun _ => ih

end TomlText

theorem Toml.read_distinct {text : String} {tree : Toml} (read : Toml.read text = some tree) :
    tree.Distinct := by
  have start : TomlDraft.Distinct {} := ⟨.empty .header, .empty .header⟩
  simp only [Toml.read] at read
  split at read
  · next draft rest done =>
    exact (TomlText.statements_distinct _ start _ draft rest done).close read
  · cases read

end Linkage
