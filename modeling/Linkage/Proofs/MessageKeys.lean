import Linkage.Manifest.Basic
import Linkage.Proofs.Quotation

/-!
Messages identify their keys. Every message of a link error starts in one of a few ways, none of
which is the start of another; after that stands the key, if the error is about one, in quotations
that cannot be mistaken for what follows them. So errors with one message are about one key,
whatever characters its halves contain and whatever text ends the message.
-/

namespace Linkage

open Text (quoteKey quoteKey_append_inj)

structure Opening where
  lead : String
  keyed : Bool
  deriving DecidableEq

def Opening.chars (opening : Opening) : List Char :=
  opening.lead.toList ++ if opening.keyed then ['"'] else []

def openings : List Opening := [
  ⟨"cannot define ", true⟩, ⟨"invalid manifest: ", false⟩, ⟨"", true⟩, ⟨"unknown import ", true⟩,
  ⟨"incompatible import type for ", true⟩, ⟨"error while importing ", true⟩,
  ⟨"link error: ", false⟩]

theorem openings_apart : ∀ opening ∈ openings, ∀ other ∈ openings,
    opening.chars <+: other.chars → opening = other := by
  decide

theorem append_assoc_four (first second third fourth : String) :
    first ++ second ++ third ++ fourth = first ++ (second ++ (third ++ fourth)) := by
  rw [String.append_assoc, String.append_assoc]

namespace LinkError

def opening : LinkError → Opening
  | .type (.unsupportedExtern _ _ _) | .type (.foreignStore _ _) => ⟨"cannot define ", true⟩
  | .type (.manifest _) => ⟨"invalid manifest: ", false⟩
  | .duplicateDefinition _ _ => ⟨"", true⟩
  | .unresolvedImport _ _ _ => ⟨"unknown import ", true⟩
  | .importTypeMismatch _ _ _ _ => ⟨"incompatible import type for ", true⟩
  | .importFailed _ _ _ => ⟨"error while importing ", true⟩
  | .engine _ => ⟨"link error: ", false⟩

theorem opening_mem (error : LinkError) : error.opening ∈ openings := by
  cases error with
  | type error => cases error <;> simp [opening, openings]
  | _ => simp [opening, openings]

theorem keyed_opening (error : LinkError) : error.opening.keyed = error.key.isSome := by
  cases error with
  | type error => cases error <;> rfl
  | _ => rfl

def tail : LinkError → String
  | .type (.unsupportedExtern _ _ found) => ": unsupported extern kind " ++ found
  | .type (.foreignStore _ _) => ": value belongs to a different store"
  | .type (.manifest text) => text
  | .duplicateDefinition _ _ => " is already defined"
  | .unresolvedImport _ _ expected => ": expected " ++ expected.text
  | .importTypeMismatch _ _ expected found =>
      ": expected " ++ (expected.text ++ (" but received " ++ found.text))
  | .importFailed _ _ text => ": " ++ text
  | .engine text => text

def keyText : Option (String × String) → String
  | none => ""
  | some (module, name) => quoteKey module name

theorem message_eq (error : LinkError) :
    error.message = error.opening.lead ++ (keyText error.key ++ error.tail) := by
  cases error with
  | type error =>
      cases error with
      | unsupportedExtern module name found => exact append_assoc_four _ _ _ _
      | foreignStore module name => exact String.append_assoc
      | manifest text => exact congrArg ("invalid manifest: " ++ ·) String.empty_append.symm
  | duplicateDefinition module name =>
      change quoteKey module name ++ " is already defined" =
        "" ++ (quoteKey module name ++ " is already defined")
      exact String.empty_append.symm
  | unresolvedImport module name expected => exact append_assoc_four _ _ _ _
  | importTypeMismatch module name expected found =>
      exact (append_assoc_four _ _ _ _).trans (append_assoc_four _ _ _ _)
  | importFailed module name text => exact append_assoc_four _ _ _ _
  | engine text => exact congrArg ("link error: " ++ ·) String.empty_append.symm

theorem mark_prefix_keyText (about : Option (String × String)) :
    (if about.isSome then ['"'] else []) <+: (keyText about).toList := by
  cases about with
  | none => exact List.nil_prefix
  | some key =>
      rw [keyText, quoteKey, Text.quote, String.append_assoc, String.toList_append,
        String.toList_ofList]
      exact List.prefix_append ['"'] _

theorem opening_prefix (error : LinkError) :
    error.opening.chars <+: error.message.toList := by
  rw [message_eq, Opening.chars, keyed_opening, String.toList_append, String.toList_append]
  apply (List.prefix_append_right_inj _).mpr
  exact (mark_prefix_keyText error.key).trans (List.prefix_append _ _)

theorem opening_eq_of_message {error other : LinkError} (same : error.message = other.message) :
    error.opening = other.opening := by
  have first := error.opening_prefix
  have second := other.opening_prefix
  rw [← same] at second
  rcases List.prefix_or_prefix_of_prefix first second with shorter | longer
  · exact openings_apart _ error.opening_mem _ other.opening_mem shorter
  · exact (openings_apart _ other.opening_mem _ error.opening_mem longer).symm

theorem key_eq_of_message {error other : LinkError} (same : error.message = other.message) :
    error.key = other.key := by
  have openings := opening_eq_of_message same
  have keyed : error.key.isSome = other.key.isSome := by
    rw [← keyed_opening, ← keyed_opening, openings]
  rw [message_eq, message_eq, openings, String.append_right_inj] at same
  rcases about : error.key with _ | key <;> rcases aboutOther : other.key with _ | otherKey <;>
    rw [about, aboutOther] at keyed same
  · cases keyed
  · cases keyed
  · obtain ⟨modules, names, -⟩ := quoteKey_append_inj same
    exact congrArg some (Prod.ext modules names)

end LinkError

theorem ManifestError.danglingAlias_message (copy : Alias) :
    (danglingAlias copy).message = "alias " ++ (quoteKey copy.module copy.name ++
      (" refers to undefined " ++ (quoteKey copy.fromModule copy.fromName ++ ""))) := by
  rw [String.append_empty]
  exact append_assoc_four _ _ _ _

theorem ManifestError.alias_eq_of_message {copy other : Alias}
    (same : (danglingAlias copy).message = (danglingAlias other).message) : copy = other := by
  rw [danglingAlias_message, danglingAlias_message, String.append_right_inj] at same
  obtain ⟨modules, names, later⟩ := quoteKey_append_inj same
  rw [String.append_right_inj] at later
  obtain ⟨fromModules, fromNames, -⟩ := quoteKey_append_inj later
  cases copy
  cases other
  subst modules names fromModules fromNames
  rfl

/-- Link errors with one message are about one key, or about none; this holds of each kind of them
and across the kinds. Only faults of a manifest's text and of the engine as a whole are about none.
Dangling aliases with one message are one alias. -/
theorem messages_identify_keys :
    (∀ error other : LinkError, error.message = other.message → error.key = other.key) ∧
    (∀ error : LinkError, error.key = none ↔
      (∃ text, error = .type (.manifest text)) ∨ ∃ text, error = .engine text) ∧
    ∀ copy other : Alias,
      (ManifestError.danglingAlias copy).message = (ManifestError.danglingAlias other).message →
      copy = other := by
  refine ⟨fun _ _ => LinkError.key_eq_of_message, ?_, fun _ _ => ManifestError.alias_eq_of_message⟩
  intro error
  cases error with
  | type error => cases error <;> simp [LinkError.key, TypeError.key]
  | _ => simp [LinkError.key]

/-- A key with a line feed, a quotation mark and a mark on the character before it, as an error of
the engine carries it; and the key whose characters are those that such a message shows for them. -/
theorem messages_of_written_escapes :
    let fault := ImportFault.memory "no room"
    let error := LinkError.ofImportFault "\n" "a\".\"e\u0301" fault
    let again := LinkError.importFailed "\n" "a\".\"e\u0301" fault.message
    let other := LinkError.ofImportFault "\\n" "a\\\".\\\"e\\u\x7b301\x7d" fault
    let copy : Alias := ⟨"a\".\"b", "c", "env", "f"⟩
    let shifted : Alias := ⟨"a", "b\".\"c", "env", "f"⟩
    error.message = again.message ∧ error.key = again.key ∧ error.message ≠ other.message ∧
      (ManifestError.danglingAlias copy).message ≠
        (ManifestError.danglingAlias shifted).message := by
  intro fault error again other copy shifted
  obtain ⟨keys, -, aliases⟩ := messages_identify_keys
  have same : error.message = again.message := rfl
  refine ⟨same, keys error again same, ?_, ?_⟩
  · intro alike
    have sameKey : error.key = other.key := keys error other alike
    exact absurd sameKey (by decide)
  · intro alike
    exact absurd (aliases copy shifted alike) (by decide)

end Linkage
