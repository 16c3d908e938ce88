import Linkage.Proofs.KeyOrder
import Linkage.Proofs.Quotation

/-!
The texts of a registry and of a linker, on one line and spread over many. Each of them lists the
bound keys in order, and the list can be read back from it: a key is written between fixed texts
that tell it from the end of the list, and its halves are quoted. So two registries have one text
if the same keys are bound in them, and only then. The values, the order of definition and the order
of iteration leave no trace.
-/

namespace Linkage

theorem append_ne_append {front other : String}
    (apart : ¬ front.toList <+: other.toList ∧ ¬ other.toList <+: front.toList)
    (rest more : String) : front ++ rest ≠ other ++ more := by
  intro same
  have first : front.toList <+: (front ++ rest).toList := by simp
  have second : other.toList <+: (front ++ rest).toList := by simp [same]
  rcases List.prefix_or_prefix_of_prefix first second with shorter | longer
  · exact apart.1 shorter
  · exact apart.2 longer

structure KeyFrame where
  lead : String
  middle : String
  last : String

namespace KeyFrame

def around (frame : KeyFrame) (key : String × String) : String :=
  frame.lead ++ (Text.quote key.1 ++ (frame.middle ++ (Text.quote key.2 ++ frame.last)))

def after (front : String) (frame : KeyFrame) : KeyFrame :=
  { frame with lead := front ++ frame.lead }

theorem around_after (front : String) (frame : KeyFrame) (key : String × String) :
    (frame.after front).around key = front ++ frame.around key := by
  simp only [around, after, String.append_assoc]

theorem around_mk (lead middle last : String) (key : String × String) :
    (KeyFrame.mk lead middle last).around key =
      lead ++ Text.quote key.1 ++ middle ++ Text.quote key.2 ++ last := by
  simp only [around, String.append_assoc]

theorem around_append (frame : KeyFrame) (key : String × String) (rest : String) :
    frame.around key ++ rest = frame.lead ++ (Text.quote key.1 ++ (frame.middle ++
      (Text.quote key.2 ++ (frame.last ++ rest)))) := by
  simp only [around, String.append_assoc]

theorem around_append_inj (frame : KeyFrame) {key other : String × String} {rest more : String}
    (same : frame.around key ++ rest = frame.around other ++ more) : key = other ∧ rest = more := by
  rw [around_append, around_append, String.append_right_inj] at same
  obtain ⟨modules, middles⟩ := Text.quote_append_inj same
  obtain ⟨names, lasts⟩ := Text.quote_append_inj ((String.append_right_inj _).mp middles)
  exact ⟨Prod.ext modules names, (String.append_right_inj _).mp lasts⟩

end KeyFrame

/-- A way to write a list of keys. The first key may have a frame of its own, and a list without
keys is written in one piece. -/
structure Listing where
  first : KeyFrame
  next : KeyFrame
  close : String
  nothing : String

namespace Listing

def write (listing : Listing) : List (String × String) → String
  | [] => listing.nothing
  | key :: keys =>
      listing.first.around key ++ (String.join (keys.map listing.next.around) ++ listing.close)

/-- No key starts like the end of the list. -/
structure Separates (listing : Listing) : Prop where
  first : ¬ listing.first.lead.toList <+: listing.nothing.toList ∧
    ¬ listing.nothing.toList <+: listing.first.lead.toList
  next : ¬ listing.next.lead.toList <+: listing.close.toList ∧
    ¬ listing.close.toList <+: listing.next.lead.toList

variable {listing : Listing}

theorem join_append_inj (separates : listing.Separates) {keys others : List (String × String)}
    {rest more : String}
    (same : String.join (keys.map listing.next.around) ++ (listing.close ++ rest) =
      String.join (others.map listing.next.around) ++ (listing.close ++ more)) :
    keys = others ∧ rest = more := by
  induction keys generalizing others with
  | nil =>
      cases others with
      | nil => exact ⟨rfl, by simpa using same⟩
      | cons other others =>
          rw [List.map_nil, String.join_nil, String.empty_append, List.map_cons, String.join_cons,
            String.append_assoc, KeyFrame.around_append] at same
          exact absurd same.symm (append_ne_append separates.next _ _)
  | cons key keys ih =>
      rw [List.map_cons, String.join_cons, String.append_assoc] at same
      cases others with
      | nil =>
          rw [List.map_nil, String.join_nil, String.empty_append, KeyFrame.around_append] at same
          exact absurd same (append_ne_append separates.next _ _)
      | cons other others =>
          rw [List.map_cons, String.join_cons, String.append_assoc] at same
          obtain ⟨rfl, later⟩ := KeyFrame.around_append_inj _ same
          obtain ⟨rfl, rests⟩ := ih later
          exact ⟨rfl, rests⟩

theorem write_append_inj (separates : listing.Separates) {keys others : List (String × String)}
    {rest more : String} (same : listing.write keys ++ rest = listing.write others ++ more) :
    keys = others ∧ rest = more := by
  cases keys with
  | nil =>
      cases others with
      | nil => exact ⟨rfl, (String.append_right_inj _).mp same⟩
      | cons other others =>
          rw [write, write, String.append_assoc, KeyFrame.around_append] at same
          exact absurd same.symm (append_ne_append separates.first _ _)
  | cons key keys =>
      rw [write, String.append_assoc, String.append_assoc] at same
      cases others with
      | nil =>
          rw [write, KeyFrame.around_append] at same
          exact absurd same (append_ne_append separates.first _ _)
      | cons other others =>
          rw [write, String.append_assoc, String.append_assoc] at same
          obtain ⟨rfl, later⟩ := KeyFrame.around_append_inj _ same
          obtain ⟨rfl, rests⟩ := join_append_inj separates later
          exact ⟨rfl, rests⟩

end Listing

theorem intercalate_cons (separator first : String) (rest : List String) :
    separator.intercalate (first :: rest) =
      first ++ String.join (rest.map (separator ++ ·)) := by
  induction rest generalizing first with
  | nil => exact String.intercalate_singleton.trans String.append_empty.symm
  | cons second rest ih =>
      calc separator.intercalate (first :: second :: rest)
        _ = first ++ separator ++ separator.intercalate (second :: rest) :=
              String.intercalate_cons_cons
        _ = first ++ separator ++ (second ++ String.join (rest.map (separator ++ ·))) := by rw [ih]
        _ = first ++ ((separator ++ second) ++ String.join (rest.map (separator ++ ·))) := by
              simp only [String.append_assoc]
        _ = first ++ String.join ((second :: rest).map (separator ++ ·)) :=
              congrArg (first ++ ·) String.join_cons.symm

def Listing.separated (frame : KeyFrame) (separator close : String) : Listing :=
  ⟨frame, frame.after separator, close, close⟩

theorem Listing.write_separated (frame : KeyFrame) (separator close : String)
    (keys : List (String × String)) :
    (separated frame separator close).write keys =
      separator.intercalate (keys.map frame.around) ++ close := by
  cases keys with
  | nil => exact String.empty_append.symm
  | cons key keys =>
      have others : (keys.map frame.around).map (separator ++ ·) =
          keys.map (frame.after separator).around := by
        rw [List.map_map]
        exact List.map_congr_left fun other _ => (frame.around_after separator other).symm
      rw [List.map_cons, intercalate_cons, others, String.append_assoc]
      rfl

namespace Namespace

def onOneLine : Listing :=
  Listing.separated ⟨"(", ", ", ")"⟩ ", " "] \x7d"

theorem separates_onOneLine : onOneLine.Separates := by
  constructor <;> decide

theorem text_eq_write (ns : Namespace) :
    ns.text = "Namespace \x7b keys: [" ++ onOneLine.write ns.sortedKeys := by
  have keyTexts : keyText = (KeyFrame.mk "(" ", " ")").around :=
    funext fun key => (KeyFrame.around_mk "(" ", " ")" key).symm
  unfold text
  rw [keyTexts, String.append_assoc]
  exact congrArg ("Namespace \x7b keys: [" ++ ·) (Listing.write_separated _ _ _ _).symm

theorem text_append_inj {ns other : Namespace} {rest more : String}
    (same : ns.text ++ rest = other.text ++ more) :
    ns.sortedKeys = other.sortedKeys ∧ rest = more := by
  rw [text_eq_write, text_eq_write, String.append_assoc, String.append_assoc] at same
  exact Listing.write_append_inj separates_onOneLine ((String.append_right_inj _).mp same)

theorem text_eq_iff {ns other : Namespace} :
    ns.text = other.text ↔ ns.sortedKeys = other.sortedKeys := by
  constructor
  · intro same
    exact (text_append_inj (congrArg (· ++ "") same)).1
  · intro same
    rw [text_eq_write, same]
    exact (text_eq_write other).symm

end Namespace

theorem join_flatMap {α : Type} (lines : α → List String) (separator : String) (items : List α) :
    String.join ((items.flatMap lines).map (separator ++ ·)) =
      String.join (items.map fun item => String.join ((lines item).map (separator ++ ·))) := by
  induction items with
  | nil => rfl
  | cons item rest ih =>
      rw [List.flatMap_cons, List.map_append, String.join_append, ih, List.map_cons,
        String.join_cons]

theorem intercalate_lines (separator first second : String) (middle last : List String) :
    separator.intercalate ([first, second] ++ middle ++ last) =
      first ++ ((separator ++ second) ++ (String.join (middle.map (separator ++ ·)) ++
        String.join (last.map (separator ++ ·)))) := by
  have flat : [first, second] ++ middle ++ last = first :: second :: (middle ++ last) := by simp
  rw [flat, intercalate_cons, List.map_cons, String.join_cons, List.map_append, String.join_append]

theorem KeyFrame.join_lines (separator front indent mark back : String) (key : String × String) :
    String.join ([front, indent ++ Text.quote key.1 ++ mark, indent ++ Text.quote key.2 ++ mark,
        back].map (separator ++ ·)) =
      (KeyFrame.mk (separator ++ (front ++ (separator ++ indent))) (mark ++ (separator ++ indent))
        (mark ++ (separator ++ back))).around key := by
  simp only [around, List.map_cons, List.map_nil, String.join_cons, String.join_nil,
    String.append_assoc, String.append_empty]

theorem Shadowing.eq_of_name {one other : Shadowing} (same : one.name = other.name) :
    one = other := by
  cases one <;> cases other <;> first | rfl | exact absurd same (by decide)

namespace Linker

def spreadFrame : KeyFrame where
  lead := "\n" ++ ("            (" ++ ("\n" ++ "                "))
  middle := "," ++ ("\n" ++ "                ")
  last := "," ++ ("\n" ++ "            ),")

def spreadOut : Listing :=
  ⟨spreadFrame, spreadFrame, "\n" ++ "        ],", "],"⟩

theorem separates_spreadOut : spreadOut.Separates := by
  constructor <;> decide

theorem join_spreadKey (key : String × String) :
    String.join ((spreadKey key).map ("\n" ++ ·)) = spreadFrame.around key :=
  KeyFrame.join_lines _ _ _ _ _ key

def keyLines : List (String × String) → List String
  | [] => ["        keys: [],"]
  | keys => ["        keys: ["] ++ keys.flatMap spreadKey ++ ["        ],"]

theorem join_keyLines (keys : List (String × String)) :
    String.join ((keyLines keys).map ("\n" ++ ·)) =
      "\n" ++ "        keys: [" ++ spreadOut.write keys := by
  cases keys with
  | nil => decide
  | cons key keys =>
      have lines : keyLines (key :: keys) =
          ["        keys: ["] ++ (key :: keys).flatMap spreadKey ++ ["        ],"] := rfl
      have items : ((key :: keys).map fun item => String.join ((spreadKey item).map ("\n" ++ ·))) =
          (key :: keys).map spreadFrame.around :=
        List.map_congr_left fun item _ => join_spreadKey item
      have single (line : String) : String.join ([line].map ("\n" ++ ·)) = "\n" ++ line :=
        String.join_cons.trans String.append_empty
      rw [lines, List.map_append, List.map_append, String.join_append, String.join_append,
        join_flatMap, items, single, single, List.map_cons, String.join_cons, String.append_assoc]
      exact congrArg _ String.append_assoc

variable {linker other : Linker}

theorem text_append (linker : Linker) :
    linker.text = "Linker \x7b namespace: " ++
      (linker.registry.text ++ (", shadowing: " ++ (linker.shadowing.name ++ " \x7d"))) :=
  (String.append_assoc.trans String.append_assoc).trans String.append_assoc

theorem text_eq_iff :
    linker.text = other.text ↔
      linker.registry.sortedKeys = other.registry.sortedKeys ∧
        linker.shadowing = other.shadowing := by
  rw [text_append, text_append, String.append_right_inj]
  constructor
  · intro same
    obtain ⟨keys, rests⟩ := Namespace.text_append_inj same
    rw [String.append_right_inj, String.append_left_inj] at rests
    exact ⟨keys, Shadowing.eq_of_name rests⟩
  · rintro ⟨keys, shadowing⟩
    rw [Namespace.text_eq_iff.mpr keys, shadowing]

def spreadEnd (shadowing : Shadowing) : String :=
  String.join (["    \x7d,", "    shadowing: " ++ shadowing.name ++ ",", "\x7d"].map ("\n" ++ ·))

theorem spreadText_append (linker : Linker) :
    linker.spreadText = "Linker \x7b" ++ (("\n" ++ "    namespace: Namespace \x7b") ++
      ("\n" ++ "        keys: [" ++ (spreadOut.write linker.registry.sortedKeys ++
        spreadEnd linker.shadowing))) := by
  have lines : linker.spreadText = "\n".intercalate (
      ["Linker \x7b", "    namespace: Namespace \x7b"] ++ keyLines linker.registry.sortedKeys ++
        ["    \x7d,", "    shadowing: " ++ linker.shadowing.name ++ ",", "\x7d"]) := rfl
  rw [lines, intercalate_lines, join_keyLines, String.append_assoc]
  rfl

theorem spreadEnd_inj {one other : Shadowing} (same : spreadEnd one = spreadEnd other) :
    one = other := by
  cases one <;> cases other <;> first | rfl | exact absurd same (by decide)

theorem spreadText_eq_iff :
    linker.spreadText = other.spreadText ↔
      linker.registry.sortedKeys = other.registry.sortedKeys ∧
        linker.shadowing = other.shadowing := by
  rw [spreadText_append, spreadText_append, String.append_right_inj, String.append_right_inj,
    String.append_right_inj]
  constructor
  · intro same
    obtain ⟨keys, ends⟩ := Listing.write_append_inj separates_spreadOut same
    exact ⟨keys, spreadEnd_inj ends⟩
  · rintro ⟨keys, shadowing⟩
    rw [keys, shadowing]

end Linker

/-- The registries that histories end with: insertions into an empty registry, or operations of a
linker. -/
inductive Namespace.Reached : Namespace → Prop where
  | replayed (history : List Insertion) : Reached (empty.replay history)
  | linked (store : Store) (engine : Engine) (operations : List Linker.Operation) :
      Reached ((Linker.new store engine).run operations).registry

theorem Namespace.Reached.wellFormed {ns : Namespace} (reached : ns.Reached) : ns.WellFormed := by
  cases reached with
  | replayed history => exact wellFormed_empty.replay history
  | linked store engine operations => exact Linker.run_wellFormed store engine operations

def Namespace.textOf (keys : List (String × String)) : String :=
  "Namespace \x7b keys: [" ++ ", ".intercalate (keys.map keyText) ++ "] \x7d"

/-- The text of a registry lists its bound keys in order, each of them once, in whatever order the
registry is met. Two registries have one text exactly if the same keys are bound in them, and two
linkers have one text, or one spread text, exactly if moreover their settings for redefinitions are
the same. -/
theorem texts_show_bound_keys :
    (∀ ns : Namespace, ns.Reached → ∃ keys, ns.Lists keys ∧
      ∀ met : Namespace, Namespace.Rearranges met.groups ns.groups →
        met.text = Namespace.textOf keys ∧
        ∀ yielded, met.iter.Yields yielded →
          (yielded.map fun binding => (binding.1, binding.2.1)).mergeSort Namespace.keyLE = keys) ∧
    (∀ ns other : Namespace, ns.Reached → other.Reached → ∀ met otherMet : Namespace,
      Namespace.Rearranges met.groups ns.groups →
      Namespace.Rearranges otherMet.groups other.groups →
      (met.text = otherMet.text ↔
        ∀ module name, ns.contains module name = other.contains module name)) ∧
    ∀ store otherStore engine otherEngine operations otherOperations,
      let linker := (Linker.new store engine).run operations
      let other := (Linker.new otherStore otherEngine).run otherOperations
      let alike := (∀ module name,
          linker.registry.contains module name = other.registry.contains module name) ∧
        linker.shadowing = other.shadowing
      ∀ met otherMet : Namespace,
        Namespace.Rearranges met.groups linker.registry.groups →
        Namespace.Rearranges otherMet.groups other.registry.groups →
        let shown : Linker := { linker with registry := met }
        let otherShown : Linker := { other with registry := otherMet }
        shown.text = "Linker \x7b namespace: " ++ linker.registry.text ++ ", shadowing: " ++
          linker.shadowing.name ++ " \x7d" ∧
        (shown.text = otherShown.text ↔ alike) ∧
        (shown.spreadText = otherShown.spreadText ↔ alike) := by
  refine ⟨?_, ?_, ?_⟩
  · intro ns reached
    refine ⟨ns.sortedKeys, reached.wellFormed.lists_sortedKeys, ?_⟩
    intro met arranged
    rw [← arranged.sortedKeys_eq]
    refine ⟨rfl, ?_⟩
    intro yielded yields
    rw [Cursor.yields_iff.mp yields]
    rfl
  · intro ns other reached otherReached met otherMet arranged otherArranged
    rw [Namespace.text_eq_iff, arranged.sortedKeys_eq, otherArranged.sortedKeys_eq]
    exact reached.wellFormed.sortedKeys_eq_iff otherReached.wellFormed
  · intro store otherStore engine otherEngine operations otherOperations linker other alike met
      otherMet arranged otherArranged shown otherShown
    have formed : linker.registry.WellFormed := Linker.run_wellFormed store engine operations
    have otherFormed : other.registry.WellFormed :=
      Linker.run_wellFormed otherStore otherEngine otherOperations
    have keys : shown.registry.sortedKeys = otherShown.registry.sortedKeys ↔
        ∀ module name,
          linker.registry.contains module name = other.registry.contains module name := by
      rw [arranged.sortedKeys_eq, otherArranged.sortedKeys_eq]
      exact formed.sortedKeys_eq_iff otherFormed
    refine ⟨?_, ?_, ?_⟩
    · rw [← Namespace.text_eq_iff.mpr arranged.sortedKeys_eq]
      rfl
    · rw [Linker.text_eq_iff, keys]
    · rw [Linker.spreadText_eq_iff, keys]

/-- Two histories of the same keys, with other values and in another order, and the second registry
met backwards. A third registry has one key, and without the escapes its text would be that of the
other two. Of three linkers with the keys, the last allows redefinitions. -/
theorem texts_of_reordered_definitions :
    let value (address : Nat) : Extern := ⟨0, .global ⟨address, ⟨.i32, false⟩⟩⟩
    let first := Namespace.empty.replay [⟨"b", "y", value 1, .reject⟩, ⟨"a", "x", value 2, .reject⟩,
      ⟨"a", "x", value 3, .reject⟩]
    let second := Namespace.empty.replay [⟨"a", "x", value 4, .reject⟩,
      ⟨"b", "y", value 5, .reject⟩, ⟨"a", "x", value 6, .allow⟩]
    let third := Namespace.empty.replay [⟨"a", "x\"), (\"b\", \"y", value 7, .reject⟩]
    let met : Namespace := ⟨second.groups.reverse⟩
    let one := (Linker.new { id := 0 }).run [.define "b" "y" (value 1), .define "a" "x" (value 2)]
    let other := (Linker.new { id := 0 }).run [.define "a" "x" (value 3), .define "b" "y" (value 4)]
    let allowing := (Linker.new { id := 0 }).run
      [.allowShadowing true, .define "b" "y" (value 1), .define "a" "x" (value 2)]
    Namespace.Rearranges met.groups second.groups ∧ first.text = met.text ∧
      first.text ≠ third.text ∧ one.text = other.text ∧ one.spreadText = other.spreadText ∧
      one.text ≠ allowing.text ∧ one.spreadText ≠ allowing.spreadText := by
  intro value first second third met one other allowing
  obtain ⟨-, registries, linkers⟩ := texts_show_bound_keys
  have itself (ns : Namespace) : Namespace.Rearranges ns.groups ns.groups :=
    ⟨ns.groups, List.Perm.refl _, List.forall₂_same.mpr fun _ _ => ⟨rfl, List.Perm.refl _⟩⟩
  have backwards : Namespace.Rearranges met.groups second.groups :=
    ⟨second.groups.reverse, List.reverse_perm _,
      List.forall₂_same.mpr fun _ _ => ⟨rfl, List.Perm.refl _⟩⟩
  have reachedFirst : first.Reached := .replayed _
  have reachedSecond : second.Reached := .replayed _
  have sameKeys : ∀ module name, first.contains module name = second.contains module name :=
    (reachedFirst.wellFormed.perm_keys_iff reachedSecond.wellFormed).mp (by decide)
  have reachedOne : one.registry.Reached := .linked _ _ _
  have reachedOther : other.registry.Reached := .linked _ _ _
  have sameBound : ∀ module name,
      one.registry.contains module name = other.registry.contains module name :=
    (reachedOne.wellFormed.perm_keys_iff reachedOther.wellFormed).mp (by decide)
  have shown := linkers { id := 0 } { id := 0 } .interpreter .interpreter _ _ one.registry
    other.registry (itself _) (itself _)
  have differ := linkers { id := 0 } { id := 0 } .interpreter .interpreter _ _ one.registry
    allowing.registry (itself _) (itself _)
  refine ⟨backwards, ?_, ?_, shown.2.1.mpr ⟨sameBound, rfl⟩, shown.2.2.mpr ⟨sameBound, rfl⟩, ?_, ?_⟩
  · exact (registries first second reachedFirst reachedSecond first met (itself _) backwards).mpr
      sameKeys
  · intro alike
    have bound := (registries first third reachedFirst (.replayed _) first third (itself _)
      (itself _)).mp alike "b" "y"
    exact absurd bound (by decide)
  · intro alike
    exact absurd (differ.2.1.mp alike).2 (by decide)
  · intro alike
    exact absurd (differ.2.2.mp alike).2 (by decide)

end Linkage
