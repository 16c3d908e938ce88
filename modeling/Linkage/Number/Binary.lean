/-!
Binary floating point by exact arithmetic. A bit pattern is a sign, an exponent and a significand;
a finite value is `± significand * 2 ^ exponent` over the integers, and every result is the exact
one rounded once, to nearest with ties to even. Nothing here uses the machine's own floats.
-/

namespace Linkage.Number

/-- A binary format: how many significand bits (the leading one included) and exponent bits. -/
structure BinaryFormat where
  precision : Nat
  exponentBits : Nat
  deriving DecidableEq, Repr

namespace BinaryFormat

def binary32 : BinaryFormat := ⟨24, 8⟩
def binary64 : BinaryFormat := ⟨53, 11⟩

variable (format : BinaryFormat)

def width : Nat := format.precision + format.exponentBits

/-- The exponent field that stands for infinities and NaNs. -/
def topField : Nat := Nat.pow 2 format.exponentBits - 1

/-- The exponent of the last significand bit of the smallest values. -/
def minExponent : Int := 3 - (Nat.pow 2 (format.exponentBits - 1) : Nat) - format.precision

def signBit : Nat := Nat.pow 2 (format.width - 1)

def infinityBits : Nat := format.topField * Nat.pow 2 (format.precision - 1)

def quietBit : Nat := Nat.pow 2 (format.precision - 2)

end BinaryFormat

inductive Binary where
  | nan
  | infinity (negative : Bool)
  | finite (negative : Bool) (significand : Nat) (exponent : Int)
  deriving DecidableEq, Repr

def Binary.ofBits (format : BinaryFormat) (bits : Nat) : Binary :=
  let fractionSize := Nat.pow 2 (format.precision - 1)
  let fraction := bits % fractionSize
  let field := bits / fractionSize % Nat.pow 2 format.exponentBits
  let negative := bits / format.signBit % 2 = 1
  if field = format.topField then
    if fraction = 0 then .infinity negative else .nan
  else if field = 0 then .finite negative fraction format.minExponent
  else .finite negative (fractionSize + fraction) (format.minExponent + (field - 1 : Nat))

def scaled (numerator denominator : Nat) (exponent : Int) : Nat × Nat :=
  if 0 ≤ exponent then (numerator, denominator * Nat.pow 2 exponent.toNat)
  else (numerator * Nat.pow 2 (-exponent).toNat, denominator)

def roundToEven (numerator denominator : Nat) : Nat :=
  let quotient := numerator / denominator
  let twice := 2 * (numerator % denominator)
  if twice < denominator then quotient
  else if twice = denominator then quotient + quotient % 2
  else quotient + 1

/-- The exponent at which a positive quotient has just as many bits as the format keeps. -/
def fittingExponent (format : BinaryFormat) (numerator denominator : Nat) : Int :=
  let guess : Int := (numerator.log2 : Int) - denominator.log2 - format.precision
  let (top, bottom) := scaled numerator denominator (guess + format.precision)
  max format.minExponent (if bottom ≤ top then guess + 1 else guess)

/-- The bits, without a sign, of the value nearest to a quotient. The significand's carry runs
into the exponent field, which is the right neighbour in every case, infinity included. -/
def magnitudeBits (format : BinaryFormat) (numerator denominator : Nat) : Nat :=
  if numerator = 0 then 0
  else
    let exponent := fittingExponent format numerator denominator
    let (top, bottom) := scaled numerator denominator exponent
    let field := (exponent - format.minExponent).toNat
    min (field * Nat.pow 2 (format.precision - 1) + roundToEven top bottom) format.infinityBits

def withSign (format : BinaryFormat) (negative : Bool) (magnitude : Nat) : Nat :=
  if negative then format.signBit + magnitude else magnitude

def asQuotient (significand : Nat) (exponent : Int) : Nat × Nat :=
  if 0 ≤ exponent then (significand * Nat.pow 2 exponent.toNat, 1)
  else (significand, Nat.pow 2 (-exponent).toNat)

def invalidBits (format : BinaryFormat) : Nat :=
  withSign format true (format.infinityBits + format.quietBit)

/-- The NaN an operation passes on: the left operand if it is one, else the right one, quieted. -/
def passNaN (format : BinaryFormat) (left right : Nat) : Nat :=
  let source := if Binary.ofBits format left = .nan then left else right
  if source / format.quietBit % 2 = 1 then source else source + format.quietBit

def addBits (format : BinaryFormat) (left right : Nat) : Nat :=
  match Binary.ofBits format left, Binary.ofBits format right with
  | .nan, _ | _, .nan => passNaN format left right
  | .infinity a, .infinity b =>
      if a = b then withSign format a format.infinityBits else invalidBits format
  | .infinity a, .finite .. => withSign format a format.infinityBits
  | .finite .., .infinity b => withSign format b format.infinityBits
  | .finite a m e, .finite b n f =>
      let low := min e f
      let signed (negative : Bool) (value : Nat) : Int := if negative then -(value : Int) else value
      let sum := signed a (m * Nat.pow 2 (e - low).toNat)
        + signed b (n * Nat.pow 2 (f - low).toNat)
      if sum = 0 then withSign format (a && b) 0
      else
        let (top, bottom) := asQuotient sum.natAbs low
        withSign format (sum < 0) (magnitudeBits format top bottom)

def mulBits (format : BinaryFormat) (left right : Nat) : Nat :=
  match Binary.ofBits format left, Binary.ofBits format right with
  | .nan, _ | _, .nan => passNaN format left right
  | .infinity a, .infinity b => withSign format (a != b) format.infinityBits
  | .infinity a, .finite b m _ | .finite b m _, .infinity a =>
      if m = 0 then invalidBits format else withSign format (a != b) format.infinityBits
  | .finite a m e, .finite b n f =>
      let (top, bottom) := asQuotient (m * n) (e + f)
      withSign format (a != b) (magnitudeBits format top bottom)

def divBits (format : BinaryFormat) (left right : Nat) : Nat :=
  match Binary.ofBits format left, Binary.ofBits format right with
  | .nan, _ | _, .nan => passNaN format left right
  | .infinity _, .infinity _ => invalidBits format
  | .infinity a, .finite b _ _ => withSign format (a != b) format.infinityBits
  | .finite a _ _, .infinity b => withSign format (a != b) 0
  | .finite a m e, .finite b n f =>
      if n = 0 then
        if m = 0 then invalidBits format else withSign format (a != b) format.infinityBits
      else
        let (top, bottom) := asQuotient m (e - f)
        withSign format (a != b) (magnitudeBits format top (bottom * n))

def truncate (negative : Bool) (significand : Nat) (exponent : Int) : Int :=
  let (top, bottom) := asQuotient significand exponent
  if negative then -((top / bottom : Nat) : Int) else (top / bottom : Nat)

end Linkage.Number
