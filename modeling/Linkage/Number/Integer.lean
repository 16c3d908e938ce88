/-!
Decimal integers of a fixed width. A text is an optional sign and one or more ASCII digits; it is
read digit by digit, so of two faults the one met first is reported.
-/

namespace Linkage.Number

inductive IntegerFault where
  | empty
  | invalidDigit
  | tooLarge
  | tooSmall
  deriving DecidableEq, Repr

def IntegerFault.message : IntegerFault → String
  | .empty => "cannot parse integer from empty string"
  | .invalidDigit => "invalid digit found in string"
  | .tooLarge => "number too large to fit in target type"
  | .tooSmall => "number too small to fit in target type"

def digit? (char : Char) : Option Nat :=
  if '0' ≤ char ∧ char ≤ '9' then some (char.toNat - '0'.toNat) else none

/-- The value of a run of digits continuing `value`, which may not exceed `limit`. -/
def readDigits (limit : Nat) (overflow : IntegerFault) : Nat → List Char → Except IntegerFault Nat
  | value, [] => .ok value
  | value, char :: rest =>
      match digit? char with
      | none => .error .invalidDigit
      | some digit =>
          let next := value * 10 + digit
          if limit < next then .error overflow else readDigits limit overflow next rest

/-- Reads a signed integer of `width` bits: from `-2^(width-1)` up to `2^(width-1) - 1`. -/
def readSigned (width : Nat) (text : List Char) : Except IntegerFault Int :=
  let half := Nat.pow 2 (width - 1)
  match text with
  | [] => .error .empty
  | ['+'] | ['-'] => .error .invalidDigit
  | '+' :: digits => (readDigits (half - 1) .tooLarge 0 digits).map Int.ofNat
  | '-' :: digits => (readDigits half .tooSmall 0 digits).map fun value => -Int.ofNat value
  | digits => (readDigits (half - 1) .tooLarge 0 digits).map Int.ofNat

/-- Reads an unsigned integer of `width` bits. A plus may stand before it; a minus is no digit. -/
def readUnsigned (width : Nat) (text : List Char) : Except IntegerFault Nat :=
  let limit := Nat.pow 2 width - 1
  match text with
  | [] => .error .empty
  | ['+'] => .error .invalidDigit
  | '+' :: digits => readDigits limit .tooLarge 0 digits
  | digits => readDigits limit .tooLarge 0 digits

def showNat (value : Nat) : String :=
  String.ofList (Nat.toDigits 10 value)

def showInt (value : Int) : String :=
  if value < 0 then "-" ++ showNat value.natAbs else showNat value.natAbs

end Linkage.Number
