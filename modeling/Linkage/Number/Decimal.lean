import Linkage.Number.Binary
import Linkage.Number.Integer

/-!
Reading decimal texts into binary floating point. A text is an optional sign and then `inf`,
`infinity` or `nan` in any case, or digits with an optional point and an optional exponent, with
at least one digit before the exponent. The result is the nearest value, ties to even.
-/

namespace Linkage.Number

inductive FloatFault where
  | empty
  | invalid
  deriving DecidableEq, Repr

def FloatFault.message : FloatFault → String
  | .empty => "cannot parse float from empty string"
  | .invalid => "invalid float literal"

def isDigit (char : Char) : Bool := (digit? char).isSome

def digitsValue (digits : List Char) : Nat :=
  digits.foldl (fun value char => value * 10 + (digit? char).getD 0) 0

/-- The bits nearest to `digits * 10 ^ power`. A power far outside the format's range is settled
without computing it. -/
def decimalBits (format : BinaryFormat) (digits : Nat) (power : Int) : Nat :=
  let reach : Int := Nat.pow 2 format.exponentBits
  let size : Int := (digits.log2 : Int) + power * 3
  if digits = 0 then 0
  else if 0 < power ∧ reach < size then format.infinityBits
  else if power < 0 ∧ (digits.log2 : Int) + 1 + power * 3 < -reach then 0
  else if 0 ≤ power then magnitudeBits format (digits * Nat.pow 10 power.toNat) 1
  else magnitudeBits format digits (Nat.pow 10 (-power).toNat)

def splitSign : List Char → Bool × List Char
  | '-' :: rest => (true, rest)
  | '+' :: rest => (false, rest)
  | text => (false, text)

def readExponent : List Char → Option Int
  | [] => some 0
  | mark :: rest =>
      if mark = 'e' ∨ mark = 'E' then
        let (negative, digits) := splitSign rest
        if digits.isEmpty || !digits.all isDigit then none
        else some (if negative then -(digitsValue digits : Int) else digitsValue digits)
      else none

def readDecimal (text : List Char) : Option (Nat × Int) :=
  let whole := text.takeWhile isDigit
  let afterWhole := text.dropWhile isDigit
  let (fraction, tail) := match afterWhole with
    | '.' :: rest => (rest.takeWhile isDigit, rest.dropWhile isDigit)
    | rest => ([], rest)
  if whole.isEmpty && fraction.isEmpty then none
  else (readExponent tail).map fun power =>
    (digitsValue (whole ++ fraction), power - fraction.length)

def lowered (text : List Char) : List Char :=
  text.map Char.toLower

def readBinary (format : BinaryFormat) (text : List Char) : Except FloatFault Nat :=
  let (negative, rest) := splitSign text
  let word := String.ofList (lowered rest)
  if text.isEmpty then .error .empty
  else if word = "inf" ∨ word = "infinity" then
    .ok (withSign format negative format.infinityBits)
  else if word = "nan" then
    .ok (withSign format negative (format.infinityBits + format.quietBit))
  else match readDecimal rest with
    | none => .error .invalid
    | some (digits, power) => .ok (withSign format negative (decimalBits format digits power))

end Linkage.Number
