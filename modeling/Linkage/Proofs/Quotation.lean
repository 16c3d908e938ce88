import Linkage.Text.Quoted
import Linkage.Proofs.Cuts

/-!
Quoted texts can be told from what stands after them. A single character can be taken off an escaped
text, whichever of the forms it was written in, and a quotation mark that ends a text is none of
these forms. So two quotations that are continued to the same text were made from the same text, and
so were their halves where the quotations are those of keys.
-/

namespace Linkage.Text

def hexValue (char : Char) : Nat :=
  if char.isDigit then char.toNat - '0'.toNat else char.toNat - 'a'.toNat + 10

def ofHexDigits (digits : List Char) : Nat :=
  digits.foldl (fun value char => 16 * value + hexValue char) 0

theorem hexValue_digitChar : ∀ digit < 16, hexValue (Nat.digitChar digit) = digit := by
  decide

theorem ofHexDigits_toDigits (code : Nat) : ofHexDigits (Nat.toDigits 16 code) = code := by
  induction code using Nat.base_induction 16 (by decide) with
  | single digit small =>
      simp [Nat.toDigits_of_lt_base small, ofHexDigits, hexValue_digitChar digit small]
  | digit front digit small positive ih =>
      rw [← Nat.toDigits_append_toDigits (by decide) positive small,
        Nat.toDigits_of_lt_base small]
      simp only [ofHexDigits, List.foldl_append, List.foldl_cons, List.foldl_nil] at ih ⊢
      rw [ih, hexValue_digitChar digit small]

theorem ne_brace_of_mem_toDigits {char : Char} {code : Nat}
    (member : char ∈ Nat.toDigits 16 code) : char ≠ '\x7d' := by
  induction code using Nat.base_induction 16 (by decide) with
  | single digit small =>
      rw [Nat.toDigits_of_lt_base small, List.mem_singleton] at member
      rw [member]
      exact Nat.digitChar_ne '\x7d' (by decide)
  | digit front digit small positive ih =>
      rw [← Nat.toDigits_append_toDigits (by decide) positive small,
        Nat.toDigits_of_lt_base small, List.mem_append, List.mem_singleton] at member
      rcases member with earlier | last
      · exact ih earlier
      · rw [last]
        exact Nat.digitChar_ne '\x7d' (by decide)

def lettered : List (Char × Char) :=
  [('"', '"'), ('\\', '\\'), ('n', '\n'), ('r', '\r'), ('t', '\t'), ('0', '\x00')]

/-- Takes one character off an escaped text, up to the quotation mark that ends it. -/
def unescape : List Char → Option (Char × List Char)
  | '\\' :: 'u' :: '\x7b' :: coded =>
      let digits := coded.takeWhile (· ≠ '\x7d')
      some (Char.ofNat (ofHexDigits digits), (coded.dropWhile (· ≠ '\x7d')).tail)
  | '\\' :: letter :: rest => (lettered.lookup letter).map (·, rest)
  | '"' :: _ => none
  | char :: rest => some (char, rest)
  | [] => none

theorem unescape_plain {char : Char} (noQuote : char ≠ '"') (noBackslash : char ≠ '\\')
    (rest : List Char) : unescape (char :: rest) = some (char, rest) := by
  unfold unescape
  split <;> simp_all

theorem unescape_code (char : Char) (rest : List Char) :
    unescape ('\\' :: 'u' :: '\x7b' :: (Nat.toDigits 16 char.toNat ++ '\x7d' :: rest)) =
      some (char, rest) := by
  have noBrace : '\x7d' ∉ Nat.toDigits 16 char.toNat :=
    fun member => ne_brace_of_mem_toDigits member rfl
  rw [unescape, takeWhile_ne_append noBrace, dropWhile_ne_append noBrace, ofHexDigits_toDigits,
    Char.ofNat_toNat, List.tail_cons]

theorem unescape_escape (char : Char) (rest : List Char) :
    unescape (escape char ++ rest) = some (char, rest) := by
  fun_cases escape char with
  | case1 same => subst same; rfl
  | case2 _ same => subst same; rfl
  | case3 _ _ same => subst same; rfl
  | case4 _ _ _ same => subst same; rfl
  | case5 _ _ _ _ same => subst same; rfl
  | case6 _ _ _ _ _ same => subst same; rfl
  | case7 noQuote noBackslash => exact unescape_plain noQuote noBackslash rest
  | case8 =>
      rw [List.append_assoc, List.append_assoc]
      exact unescape_code char rest

theorem unescape_escapeAll_nil (rest : List Char) :
    unescape (escapeAll [] ++ '"' :: rest) = none := rfl

theorem unescape_escapeAll_cons (char : Char) (chars rest : List Char) :
    unescape (escapeAll (char :: chars) ++ rest) = some (char, escapeAll chars ++ rest) := by
  rw [escapeAll, List.flatMap_cons, List.append_assoc]
  exact unescape_escape char _

theorem escapeAll_append_inj {chars others rest otherRest : List Char}
    (same : escapeAll chars ++ '"' :: rest = escapeAll others ++ '"' :: otherRest) :
    chars = others ∧ rest = otherRest := by
  -- Taking off the next character tells a text that goes on from one that has ended.
  have next := congrArg unescape same
  induction chars generalizing others with
  | nil =>
      cases others with
      | nil => exact ⟨rfl, List.tail_eq_of_cons_eq same⟩
      | cons other more =>
          rw [unescape_escapeAll_nil, unescape_escapeAll_cons] at next
          cases next
  | cons char chars ih =>
      cases others with
      | nil =>
          rw [unescape_escapeAll_nil, unescape_escapeAll_cons] at next
          cases next
      | cons other more =>
          rw [unescape_escapeAll_cons, unescape_escapeAll_cons, Option.some.injEq,
            Prod.mk.injEq] at next
          obtain ⟨rfl, later⟩ := next
          obtain ⟨rfl, rests⟩ := ih later (congrArg unescape later)
          exact ⟨rfl, rests⟩

theorem quote_append_inj {text other rest otherRest : String}
    (same : quote text ++ rest = quote other ++ otherRest) : text = other ∧ rest = otherRest := by
  have chars := congrArg String.toList same
  simp only [quote, String.toList_append, String.toList_ofList, List.cons_append,
    List.append_assoc, List.cons.injEq, true_and, List.nil_append] at chars
  obtain ⟨texts, rests⟩ := escapeAll_append_inj chars
  exact ⟨String.toList_inj.mp texts, String.toList_inj.mp rests⟩

theorem quoteKey_append_inj {module name otherModule otherName rest otherRest : String}
    (same : quoteKey module name ++ rest = quoteKey otherModule otherName ++ otherRest) :
    module = otherModule ∧ name = otherName ∧ rest = otherRest := by
  simp only [quoteKey, String.append_assoc] at same
  obtain ⟨modules, later⟩ := quote_append_inj same
  obtain ⟨names, rests⟩ := quote_append_inj ((String.append_right_inj ".").mp later)
  exact ⟨modules, names, rests⟩

end Linkage.Text
