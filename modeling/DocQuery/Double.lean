/-!
# Double-precision numbers

A binary64 number is kept as its sixty-four bits, so that the payload of a
NaN and the sign of a zero survive, and so that order and equality can be
stated on whole numbers. Every value that is not a NaN has the whole number
`scaled`, its value times 2 ^ 1074: numeric comparison is comparison of these
(`compare?`). `orderKey` places all bit patterns on one line for sorting, and
`ofInt64` rounds a whole number to the nearest double, ties to even.
-/


namespace DocQuery

/-- A binary64 number: one sign bit, eleven exponent bits, fifty-two fraction
bits. -/
structure Double where
  bits : UInt64
  deriving DecidableEq, Inhabited

namespace Double

/-- Whether the sign bit is set. -/
def isNegative (x : Double) : Bool := 1 <<< 63 ≤ x.bits.toNat

/-- The bits without the sign. -/
def magnitudeBits (x : Double) : Nat := x.bits.toNat % 1 <<< 63

/-- The exponent as stored. -/
def storedExponent (x : Double) : Nat := x.magnitudeBits / 1 <<< 52

/-- The fraction as stored. -/
def fraction (x : Double) : Nat := x.magnitudeBits % 1 <<< 52

/-- The bits of infinity. -/
def infinityBits : Nat := 2047 <<< 52

/-- Whether the bits spell no number. -/
def isNaN (x : Double) : Bool := infinityBits < x.magnitudeBits

/-- Whether the number is infinite. -/
def isInfinite (x : Double) : Bool := x.magnitudeBits == infinityBits

/-- The fraction with the leading bit that is not stored. -/
def significand (x : Double) : Nat :=
  if x.storedExponent = 0 then x.fraction else 1 <<< 52 + x.fraction

/-- The distance to the next larger magnitude, times 2 ^ 1074. -/
def scaledUlp (x : Double) : Nat := 1 <<< (x.storedExponent - 1)

/-- The magnitude times 2 ^ 1074. An infinity lies above all finite
numbers. -/
def scaledMagnitude (x : Double) : Nat := x.significand * x.scaledUlp

/-- The value times 2 ^ 1074, which is whole for every double. -/
def scaled (x : Double) : Int :=
  if x.isNegative then -(x.scaledMagnitude : Int) else x.scaledMagnitude

/-- The scale of `scaled`. -/
def scale : Nat := 1 <<< 1074

/-- Numeric comparison; a NaN compares with nothing. -/
def compare? (x y : Double) : Option Ordering :=
  if x.isNaN || y.isNaN then none else some (compare x.scaled y.scaled)

/-- Numeric equality: the zeros are equal, a NaN equals nothing. -/
def numEq (x y : Double) : Bool := x.compare? y == some .eq

/-- The place of a number on the line that runs from the negative NaNs
through the negative numbers, both zeros and the positive numbers to the
positive NaNs. -/
def orderKey (x : Double) : Int :=
  if x.isNegative then -(x.magnitudeBits : Int) - 1 else x.magnitudeBits

/-- The order of all bit patterns. -/
def totalCompare (x y : Double) : Ordering := compare x.orderKey y.orderKey

/-- The whole number that a double is, if it is one. -/
def whole? (x : Double) : Option Int :=
  if x.isNaN || x.isInfinite then none
  else if x.scaled % (scale : Int) = 0 then some (x.scaled / (scale : Int)) else none

/-- The number one. -/
def one : Double := ⟨0x3ff0000000000000⟩

/-- The number minus one. -/
def minusOne : Double := ⟨0xbff0000000000000⟩

/-! ## Rounding whole numbers -/

/-- The quotient of a number and a unit, rounded to nearest, ties to even. -/
def roundHalfEven (n unit : Nat) : Nat :=
  let quotient := n / unit
  let rest := n % unit
  if 2 * rest < unit ∨ (2 * rest = unit ∧ quotient % 2 = 0) then quotient else quotient + 1

/-- The bits of the double nearest to a positive number below 2 ^ 1023. The
significand is added to the exponent field, so that one rounded up to
2 ^ 53 carries into it. -/
def nearestBits (n : Nat) : Nat :=
  if n = 0 then 0
  else
    let exponent := n.log2
    if exponent ≤ 52 then (exponent + 1022) <<< 52 + n <<< (52 - exponent)
    else (exponent + 1022) <<< 52 + roundHalfEven n (1 <<< (exponent - 52))

/-- The double nearest to a whole number, ties to even. -/
def ofInt64 (n : Int64) : Double :=
  let magnitude := nearestBits n.toInt.natAbs
  ⟨UInt64.ofNat (if n.toInt < 0 then 1 <<< 63 + magnitude else magnitude)⟩

end Double

end DocQuery
