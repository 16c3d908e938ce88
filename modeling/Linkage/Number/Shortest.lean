import Linkage.Number.Binary
import Linkage.Number.Integer

/-!
Texts of binary floating point values. A finite value is shown with the fewest digits that read
back as the same value, the nearest such digits if there are several, always in positional
notation.
-/

namespace Linkage.Number

/-- Half the distance to the next value below and above, both in units of a quarter of the last
significand bit. Below a power of two the values are twice as dense. -/
def quarterGaps (format : BinaryFormat) (significand : Nat) (exponent : Int) : Nat × Nat :=
  if significand = Nat.pow 2 (format.precision - 1) ∧ format.minExponent < exponent then (1, 2)
  else (2, 2)

def scaledTen (numerator denominator : Nat) (power : Int) : Nat × Nat :=
  if 0 ≤ power then (numerator, denominator * Nat.pow 10 power.toNat)
  else (numerator * Nat.pow 10 (-power).toNat, denominator)

/-- The power of ten of the digit before the leading one: the least `k` with the quotient below
`10 ^ k`. The search starts at a lower bound that is off by at most a few. -/
def decimalMagnitude (numerator denominator : Nat) : Int :=
  let bits : Int := (numerator.log2 : Int) - denominator.log2 - 1
  let start : Int := Int.fdiv (bits * 30103) 100000
  let rec climb : Nat → Int → Int
    | 0, power => power
    | steps + 1, power =>
        let (top, bottom) := scaledTen numerator denominator power
        if top < bottom then power else climb steps (power + 1)
  climb 8 start

/-- Digits and power of ten: the first decimal grid that has a point among the numbers that round
to the value decides how many digits there are. Of two such points the nearer is taken, and the
upper one when they are equally near. A number halfway to a neighbour rounds to the value exactly
when its significand is even. -/
def shortestDigits (format : BinaryFormat) (significand : Nat) (exponent : Int) : Nat × Int :=
  let (below, above) := quarterGaps format significand exponent
  let (top, bottom) := asQuotient (4 * significand) (exponent - 2)
  let (lowTop, lowBottom) := asQuotient (4 * significand - below) (exponent - 2)
  let (highTop, highBottom) := asQuotient (4 * significand + above) (exponent - 2)
  let closed := significand % 2 = 0
  let magnitude := decimalMagnitude top bottom
  let rec search : Nat → Int → Nat × Int
    | 0, power => (top / bottom, power)
    | steps + 1, power =>
        let (scaledTop, scaledBottom) := scaledTen top bottom power
        let (lowT, lowB) := scaledTen lowTop lowBottom power
        let (highT, highB) := scaledTen highTop highBottom power
        let floor := scaledTop / scaledBottom
        let twice := 2 * (scaledTop % scaledBottom)
        let downFits : Bool := if closed then lowT ≤ floor * lowB else lowT < floor * lowB
        let upFits : Bool :=
          if closed then (floor + 1) * highB ≤ highT else (floor + 1) * highB < highT
        let exactly := scaledTop % scaledBottom = 0
        if exactly then (floor, power)
        else if downFits && upFits then
          (if twice < scaledBottom then floor else floor + 1, power)
        else if downFits then (floor, power)
        else if upFits then (floor + 1, power)
        else search steps (power - 1)
  search 20 (magnitude - 1)

def positional (digits : Nat) (power : Int) : String :=
  let written := Nat.toDigits 10 digits
  if 0 ≤ power then String.ofList (written ++ List.replicate power.toNat '0')
  else
    let places := (-power).toNat
    let padded := List.replicate (places + 1 - written.length) '0' ++ written
    let whole := padded.take (padded.length - places)
    let fraction := (padded.drop (padded.length - places)).reverse.dropWhile (· = '0') |>.reverse
    String.ofList (if fraction.isEmpty then whole else whole ++ '.' :: fraction)

def showBinary (format : BinaryFormat) (bits : Nat) : String :=
  match Binary.ofBits format bits with
  | .nan => "NaN"
  | .infinity negative => if negative then "-inf" else "inf"
  | .finite negative significand exponent =>
      let sign := if negative then "-" else ""
      if significand = 0 then sign ++ "0"
      else
        let (digits, power) := shortestDigits format significand exponent
        sign ++ positional digits power

def scientific (digits : Nat) (power : Int) : String :=
  let written := Nat.toDigits 10 digits
  let exponent := power + written.length - 1
  let fraction := (written.drop 1).reverse.dropWhile (· = '0') |>.reverse
  String.ofList (written.take 1 ++ if fraction.isEmpty then [] else '.' :: fraction)
    ++ "e" ++ showInt exponent

def showBinaryPointed (format : BinaryFormat) (bits : Nat) : String :=
  let text := showBinary format bits
  match Binary.ofBits format bits with
  | .finite .. => if text.toList.contains '.' then text else text ++ ".0"
  | _ => text

/-- A text that stays short: a value below `10 ^ -4` or from `10 ^ 16` on has an exponent, every
other finite value at least one place after the point. -/
def showBinaryCompact (format : BinaryFormat) (bits : Nat) : String :=
  match Binary.ofBits format bits with
  | .finite negative significand exponent =>
      let (digits, power) := shortestDigits format significand exponent
      let places := power + (Nat.toDigits 10 digits).length
      if significand ≠ 0 ∧ (places ≤ -4 ∨ 16 < places) then
        (if negative then "-" else "") ++ scientific digits power
      else showBinaryPointed format bits
  | _ => showBinaryPointed format bits

end Linkage.Number
