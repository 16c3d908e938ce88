import Linkage.Named

/-!
TOML documents as trees. Tables keep their keys in order. A table remembers how it came to be,
because that decides what may still be added to it: a table with a header of its own or one that
only a longer header named, one made by a dotted key, or an inline one, which is closed.
-/

namespace Linkage

inductive TableForm where
  | header
  | implied
  | dotted
  | inline
  deriving DecidableEq, Repr

/-- An array is written out in one place or collects the tables of several headers. -/
inductive ArrayForm where
  | written
  | collected
  deriving DecidableEq, Repr

inductive Toml where
  | string (value : String)
  | integer (value : Int)
  /-- A float, as the bits of its binary64 value. -/
  | float (bits : Nat)
  | boolean (value : Bool)
  | moment (text : String)
  | array (form : ArrayForm) (items : List Toml)
  | table (form : TableForm) (entries : List (String × Toml))
  deriving Repr

namespace Toml

mutual

def decEq : (left right : Toml) → Decidable (left = right)
  | .string left, other => match other with
      | .string right => decidable_of_iff (left = right) (by simp)
      | .integer _ | .float _ | .boolean _ | .moment _ | .array .. | .table .. => isFalse nofun
  | .integer left, other => match other with
      | .integer right => decidable_of_iff (left = right) (by simp)
      | .string _ | .float _ | .boolean _ | .moment _ | .array .. | .table .. => isFalse nofun
  | .float left, other => match other with
      | .float right => decidable_of_iff (left = right) (by simp)
      | .string _ | .integer _ | .boolean _ | .moment _ | .array .. | .table .. => isFalse nofun
  | .boolean left, other => match other with
      | .boolean right => decidable_of_iff (left = right) (by simp)
      | .string _ | .integer _ | .float _ | .moment _ | .array .. | .table .. => isFalse nofun
  | .moment left, other => match other with
      | .moment right => decidable_of_iff (left = right) (by simp)
      | .string _ | .integer _ | .float _ | .boolean _ | .array .. | .table .. => isFalse nofun
  | .array form items, other => match other with
      | .array otherForm others =>
          have := decEqItems items others
          decidable_of_iff (form = otherForm ∧ items = others) (by simp)
      | .string _ | .integer _ | .float _ | .boolean _ | .moment _ | .table .. => isFalse nofun
  | .table form entries, other => match other with
      | .table otherForm others =>
          have := decEqEntries entries others
          decidable_of_iff (form = otherForm ∧ entries = others) (by simp)
      | .string _ | .integer _ | .float _ | .boolean _ | .moment _ | .array .. => isFalse nofun

def decEqItems : (left right : List Toml) → Decidable (left = right)
  | [], [] => isTrue rfl
  | first :: rest, other :: others =>
      have := decEq first other
      have := decEqItems rest others
      decidable_of_iff (first = other ∧ rest = others) (by simp)
  | [], _ :: _ | _ :: _, [] => isFalse nofun

def decEqEntries : (left right : List (String × Toml)) → Decidable (left = right)
  | [], [] => isTrue rfl
  | (key, first) :: rest, (name, other) :: others =>
      have := decEq first other
      have := decEqEntries rest others
      decidable_of_iff ((key = name ∧ first = other) ∧ rest = others) (by simp)
  | [], _ :: _ | _ :: _, [] => isFalse nofun

end

instance : DecidableEq Toml := decEq

/-- A table for a header: new, or one that only longer headers have named so far. -/
def opened : Option Toml → Option Toml
  | none => some (.table .header [])
  | some (.table .implied entries) => some (.table .header entries)
  | some _ => none

/-- Works on the table at the end of a path, making what is missing on the way. An array of tables
stands for its last one. Values, and with a dotted key also tables that have a header, bar the
way. -/
def descend {α : Type} (missing : TableForm) (action : Toml → Option (Toml × α)) :
    List String → Toml → Option (Toml × α)
  | [], tree => action tree
  | key :: rest, .table form entries =>
      let below (child : Toml) (rebuild : Toml → Toml) : Option (Toml × α) :=
        (descend missing action rest child).map fun (changed, result) =>
          (.table form (putNamed key (rebuild changed) entries), result)
      match entries.lookup key with
      | none => below (.table missing []) id
      | some (.array .collected items) =>
          match items.getLast? with
          | none => none
          | some last => below last fun changed => .array .collected (items.dropLast ++ [changed])
      | some (.table .inline _) => none
      | some (.table .header child) =>
          if missing = .dotted then none else below (.table .header child) id
      | some (.table child inner) => below (.table child inner) id
      | some _ => none
  | _ :: _, _ => none

def addEntry (key : String) (value : Toml) : Toml → Option (Toml × Unit)
  | .table form entries =>
      if (entries.lookup key).isSome then none
      else some (.table form (entries ++ [(key, value)]), ())
  | _ => none

/-- Adds a value under a dotted key. A dotted key opens tables of its own form only, so the table
that takes the value was made by a dotted key exactly when the key has several parts. -/
def addValue (tree : Toml) (path : List String) (key : String) (value : Toml) : Option Toml :=
  let add : Toml → Option (Toml × Unit)
    | .table form entries =>
        if decide (form = .dotted) == path.isEmpty then none
        else addEntry key value (.table form entries)
    | _ => none
  (descend .dotted add path tree).map Prod.fst

def takeEntry (key : String) : Toml → Option (Toml × Option Toml)
  | .table form entries =>
      some (.table form (entries.filter fun entry => entry.1 ≠ key), entries.lookup key)
  | _ => none

def addElement (key : String) (element : Toml) : Toml → Option (Toml × Unit)
  | .table form entries =>
      match entries.lookup key with
      | none => some (.table form (entries ++ [(key, .array .collected [element])]), ())
      | some (.array .collected items) =>
          some (.table form (putNamed key (.array .collected (items ++ [element])) entries), ())
      | some _ => none
  | _ => none

end Toml

/-- A document under construction: what is finished, and the table whose keys are being read. -/
structure TomlDraft where
  root : Toml := .table .header []
  current : Toml := .table .header []
  path : List String := []
  last : Option String := none
  inArray : Bool := false

namespace TomlDraft

def close (draft : TomlDraft) : Option Toml :=
  match draft.last with
  | none => some draft.current
  | some key =>
      let action :=
        if draft.inArray then Toml.addElement key draft.current
        else Toml.addEntry key draft.current
      (Toml.descend .implied action draft.path draft.root).map Prod.fst

/-- Starts the table of a header. One that longer headers have named already moves to this place. -/
def openTable (draft : TomlDraft) (path : List String) (key : String) : Option TomlDraft := do
  let closed ← draft.close
  let (root, earlier) ← Toml.descend .implied (Toml.takeEntry key) path closed
  let current ← Toml.opened earlier
  pure ⟨root, current, path, some key, false⟩

def openElement (draft : TomlDraft) (path : List String) (key : String) : Option TomlDraft := do
  let closed ← draft.close
  let reserve : Toml → Option (Toml × Unit)
    | .table form entries =>
        match entries.lookup key with
        | none => some (.table form (entries ++ [(key, .array .collected [])]), ())
        | some (.array .collected _) => some (.table form entries, ())
        | some _ => none
    | _ => none
  let (root, _) ← Toml.descend .implied reserve path closed
  pure ⟨root, .table .header [], path, some key, true⟩

def addValue (draft : TomlDraft) (path : List String) (key : String) (value : Toml) :
    Option TomlDraft :=
  (draft.current.addValue path key value).map fun current => { draft with current := current }

end TomlDraft

end Linkage
