import Mathlib.Algebra.Ring.Int.Defs
import Linkage.Command.Invoke
import Linkage.Proofs.Moves

/-!
Integers given as arguments. A text is read as the integer that it denotes, an optional sign and a
run of ASCII digits in base ten, if that integer is one of the type's. Digits only ever make a
number larger, so the first value beyond the limit settles that the whole is beyond it. What is
printed for a value denotes that value.
-/

namespace Linkage.Number

/-- One or more ASCII digits, and the number that they are in base ten. -/
structure Numeral (digits : List Char) (value : Nat) : Prop where
  nonempty : digits ≠ []
  ascii : ∀ char ∈ digits, char.isDigit = true
  value : Nat.ofDigitChars 10 digits 0 = value

theorem isDigit_iff {char : Char} : char.isDigit = true ↔ '0' ≤ char ∧ char ≤ '9' := by
  simp [Char.isDigit, Char.le_def]

theorem digit?_of_isDigit {char : Char} (isDigit : char.isDigit = true) :
    digit? char = some (char.toNat - '0'.toNat) :=
  if_pos (isDigit_iff.mp isDigit)

theorem digit?_of_not_isDigit {char : Char} (noDigit : char.isDigit ≠ true) :
    digit? char = none :=
  if_neg (mt isDigit_iff.mpr noDigit)

theorem le_ofDigitChars (digits : List Char) (value : Nat) :
    value ≤ Nat.ofDigitChars 10 digits value := by
  induction digits generalizing value with
  | nil => exact Nat.le_of_eq Nat.ofDigitChars_nil.symm
  | cons char rest ih =>
      rw [Nat.ofDigitChars_cons]
      have more := ih (10 * value + (char.toNat - '0'.toNat))
      omega

/-- Stopping at the first value beyond the limit refuses no number that is within it. -/
theorem readDigits_eq_ok_iff {limit value result : Nat} {overflow : IntegerFault}
    {digits : List Char} (within : value ≤ limit) :
    readDigits limit overflow value digits = .ok result ↔
      (∀ char ∈ digits, char.isDigit = true) ∧ Nat.ofDigitChars 10 digits value = result ∧
        result ≤ limit := by
  induction digits generalizing value with
  | nil =>
      simp only [readDigits, Except.ok.injEq, List.not_mem_nil, false_implies, implies_true,
        Nat.ofDigitChars_nil, true_and]
      constructor
      · rintro rfl
        exact ⟨rfl, within⟩
      · exact And.left
  | cons char rest ih =>
      rw [List.forall_mem_cons, readDigits]
      by_cases isDigit : char.isDigit = true
      · have next : value * 10 + (char.toNat - '0'.toNat) =
            10 * value + (char.toNat - '0'.toNat) := by rw [Nat.mul_comm]
        simp only [digit?_of_isDigit isDigit, isDigit, true_and, next, Nat.ofDigitChars_cons]
        split
        · next beyond =>
          have grown := le_ofDigitChars rest (10 * value + (char.toNat - '0'.toNat))
          constructor
          · exact nofun
          · rintro ⟨_, rfl, fits⟩
            omega
        · next fits => exact ih (Nat.not_lt.mp fits)
      · simp [digit?_of_not_isDigit isDigit, isDigit]

theorem readDigits_eq_ok_iff_numeral {limit value : Nat} {overflow : IntegerFault}
    {digits : List Char} (nonempty : digits ≠ []) :
    readDigits limit overflow 0 digits = .ok value ↔ Numeral digits value ∧ value ≤ limit := by
  rw [readDigits_eq_ok_iff (Nat.zero_le limit)]
  constructor
  · rintro ⟨ascii, isValue, fits⟩
    exact ⟨⟨nonempty, ascii, isValue⟩, fits⟩
  · rintro ⟨numeral, fits⟩
    exact ⟨numeral.ascii, numeral.value, fits⟩

/-- The integer that a text denotes, if it denotes one: a numeral that at most one sign stands
before. -/
inductive Denotes : List Char → Int → Prop where
  | unsigned {digits : List Char} {value : Nat} (numeral : Numeral digits value) :
      Denotes digits value
  | plus {digits : List Char} {value : Nat} (numeral : Numeral digits value) :
      Denotes ('+' :: digits) value
  | minus {digits : List Char} {value : Nat} (numeral : Numeral digits value) :
      Denotes ('-' :: digits) (-value)

section
variable {digits text : List Char} {value : Int}

theorem not_numeral_cons {sign : Char} (noDigit : sign.isDigit ≠ true) (value : Nat) :
    ¬ Numeral (sign :: digits) value :=
  fun numeral => noDigit (numeral.ascii sign List.mem_cons_self)

theorem denotes_plus_iff :
    Denotes ('+' :: digits) value ↔ ∃ number : Nat, Numeral digits number ∧ value = number := by
  constructor
  · rintro (numeral | numeral | _)
    · exact absurd numeral (not_numeral_cons (by decide) _)
    · exact ⟨_, numeral, rfl⟩
  · rintro ⟨number, numeral, rfl⟩
    exact .plus numeral

theorem denotes_minus_iff :
    Denotes ('-' :: digits) value ↔ ∃ number : Nat, Numeral digits number ∧ value = -number := by
  constructor
  · rintro (numeral | _ | numeral)
    · exact absurd numeral (not_numeral_cons (by decide) _)
    · exact ⟨_, numeral, rfl⟩
  · rintro ⟨number, numeral, rfl⟩
    exact .minus numeral

theorem denotes_unsigned_iff (noPlus : ∀ rest, digits ≠ '+' :: rest)
    (noMinus : ∀ rest, digits ≠ '-' :: rest) :
    Denotes digits value ↔ ∃ number : Nat, Numeral digits number ∧ value = number := by
  constructor
  · rintro (numeral | numeral | numeral)
    · exact ⟨_, numeral, rfl⟩
    · exact absurd rfl (noPlus _)
    · exact absurd rfl (noMinus _)
  · rintro ⟨number, numeral, rfl⟩
    exact .unsigned numeral

/-- Digits under a sign are read if the limit stands for the range of what they denote then. -/
theorem signed_readDigits_eq_ok_iff {limit : Nat} {overflow : IntegerFault} {sign : Nat → Int}
    {least greatest : Int} (nonempty : digits ≠ [])
    (range : ∀ number, number ≤ limit ↔ least ≤ sign number ∧ sign number ≤ greatest) :
    (readDigits limit overflow 0 digits).map sign = .ok value ↔
      (∃ number, Numeral digits number ∧ value = sign number) ∧
        least ≤ value ∧ value ≤ greatest := by
  simp only [except_map_eq_ok_iff, readDigits_eq_ok_iff_numeral nonempty, range]
  constructor
  · rintro ⟨number, ⟨numeral, fits⟩, rfl⟩
    exact ⟨⟨number, numeral, rfl⟩, fits⟩
  · rintro ⟨⟨number, numeral, rfl⟩, fits⟩
    exact ⟨number, ⟨numeral, fits⟩, rfl⟩

theorem readSigned_eq_ok_iff {width : Nat} :
    readSigned width text = .ok value ↔
      Denotes text value ∧ -2 ^ (width - 1) ≤ value ∧ value ≤ 2 ^ (width - 1) - 1 := by
  have noDigits (number : Nat) : ¬ Numeral [] number := fun numeral => numeral.nonempty rfl
  have half : 0 < Nat.pow 2 (width - 1) := Nat.two_pow_pos _
  have bound : (2 : Int) ^ (width - 1) = Nat.pow 2 (width - 1) := (Int.natCast_pow 2 _).symm
  have positive (number : Nat) : number ≤ Nat.pow 2 (width - 1) - 1 ↔
      -2 ^ (width - 1) ≤ Int.ofNat number ∧ Int.ofNat number ≤ 2 ^ (width - 1) - 1 := by
    rw [bound, Int.ofNat_eq_natCast]
    omega
  -- After a minus the range goes on for one more.
  have negative (number : Nat) : number ≤ Nat.pow 2 (width - 1) ↔
      -2 ^ (width - 1) ≤ -Int.ofNat number ∧ -Int.ofNat number ≤ 2 ^ (width - 1) - 1 := by
    rw [bound, Int.ofNat_eq_natCast]
    omega
  fun_cases readSigned width text with
  | case1 => simp [denotes_unsigned_iff, noDigits]
  | case2 => simp [denotes_plus_iff, noDigits]
  | case3 => simp [denotes_minus_iff, noDigits]
  | case4 _ digits nonempty =>
      rw [denotes_plus_iff]
      exact signed_readDigits_eq_ok_iff nonempty positive
  | case5 _ digits nonempty =>
      rw [denotes_minus_iff]
      exact signed_readDigits_eq_ok_iff nonempty negative
  | case6 _ _ nonempty _ _ noPlus noMinus =>
      rw [denotes_unsigned_iff noPlus noMinus]
      exact signed_readDigits_eq_ok_iff nonempty positive

end

theorem numeral_toDigits (value : Nat) : Numeral (Nat.toDigits 10 value) value where
  nonempty := Nat.toDigits_ne_nil
  ascii _ member := Nat.isDigit_of_mem_toDigits (by decide) (by decide) member
  value := Nat.ofDigitChars_ten_toDigits

theorem denotes_showInt (value : Int) : Denotes (showInt value).toList value := by
  have digits := numeral_toDigits value.natAbs
  by_cases negative : value < 0
  · have shown : (showInt value).toList = '-' :: Nat.toDigits 10 value.natAbs := by
      simp [showInt, showNat, negative]
    have denotes := Denotes.minus digits
    rwa [Int.ofNat_natAbs_of_nonpos (Int.le_of_lt negative), Int.neg_neg, ← shown] at denotes
  · have shown : (showInt value).toList = Nat.toDigits 10 value.natAbs := by
      simp [showInt, showNat, negative]
    have denotes := Denotes.unsigned digits
    rwa [Int.natAbs_of_nonneg (Int.not_lt.mp negative), ← shown] at denotes

end Linkage.Number

namespace Linkage

/-- Arguments of an integer type are read as the bits of the integer that they denote, those that
denote one in the range of the type are read, and what is printed for a value is read as it. -/
structure ReadsIntegers (type : ValType) (width : Nat) (value : BitVec width → Value) : Prop where
  reads : ∀ text result, Value.ofArgument text type = .ok result ↔
    ∃ bits, result = value bits ∧ Number.Denotes text.toList bits.toInt
  accepts : ∀ text, (∃ result, Value.ofArgument text type = .ok result) ↔
    ∃ number, Number.Denotes text.toList number ∧
      -2 ^ (width - 1) ≤ number ∧ number ≤ 2 ^ (width - 1) - 1
  prints : ∀ bits, Value.ofArgument (value bits).text type = .ok (value bits)

variable {type : ValType} {width : Nat} {value : BitVec width → Value}

theorem range_toInt (bits : BitVec width) :
    -2 ^ (width - 1) ≤ bits.toInt ∧ bits.toInt ≤ 2 ^ (width - 1) - 1 :=
  ⟨bits.le_toInt, Int.le_sub_one_of_lt bits.toInt_lt⟩

theorem readsIntegers (positive : 0 < width)
    (converts : ∀ text result, Value.ofArgument text type = .ok result ↔
      ∃ number, Number.readSigned width text.toList = .ok number ∧
        result = value (BitVec.ofInt width number))
    (shows : ∀ bits, (value bits).text = Number.showInt bits.toInt) :
    ReadsIntegers type width value := by
  have reads : ∀ text result, Value.ofArgument text type = .ok result ↔
      ∃ bits, result = value bits ∧ Number.Denotes text.toList bits.toInt := by
    intro text result
    rw [converts]
    constructor
    · rintro ⟨number, read, rfl⟩
      obtain ⟨denotes, range⟩ := Number.readSigned_eq_ok_iff.mp read
      refine ⟨_, rfl, ?_⟩
      rwa [BitVec.toInt_ofInt_eq_self positive range.1 (Int.lt_of_le_sub_one range.2)]
    · rintro ⟨bits, rfl, denotes⟩
      have read := Number.readSigned_eq_ok_iff.mpr ⟨denotes, range_toInt bits⟩
      exact ⟨bits.toInt, read, by rw [BitVec.ofInt_toInt]⟩
  refine ⟨reads, ?_, ?_⟩
  · intro text
    constructor
    · rintro ⟨result, read⟩
      obtain ⟨bits, -, denotes⟩ := (reads text result).mp read
      exact ⟨bits.toInt, denotes, range_toInt bits⟩
    · rintro ⟨number, denotes, range⟩
      have read := Number.readSigned_eq_ok_iff.mpr ⟨denotes, range⟩
      exact ⟨_, (converts text _).mpr ⟨number, read, rfl⟩⟩
  · intro bits
    rw [reads, shows]
    exact ⟨bits, rfl, Number.denotes_showInt bits.toInt⟩

/-- Arguments of the two integer types are read exactly. A text is read if and only if it is an
optional sign and one or more ASCII digits that denote an integer of the type, and the value that
it gives is that integer. So every value is read back from what is printed for it. -/
theorem integer_arguments_read_exactly :
    ReadsIntegers .i32 32 .i32 ∧ ReadsIntegers .i64 64 .i64 := by
  constructor
  · refine readsIntegers (by decide) ?_ (fun _ => rfl)
    intro text result
    rw [Value.ofArgument]
    cases Number.readSigned 32 text.toList <;> simp [eq_comm]
  · refine readsIntegers (by decide) ?_ (fun _ => rfl)
    intro text result
    rw [Value.ofArgument]
    cases Number.readSigned 64 text.toList <;> simp [eq_comm]

/-- The least value, the greatest after zeros and a plus, the first beyond each, a lone sign, two
signs and a blank. -/
example :
    ["-2147483648", "+0002147483647", "-2147483649", "2147483648", "-", "+-1", " 1"].map
        (fun text => (Value.ofArgument text .i32).toOption) =
      [some (.i32 0x80000000), some (.i32 0x7fffffff), none, none, none, none, none] := by
  decide +kernel

end Linkage
