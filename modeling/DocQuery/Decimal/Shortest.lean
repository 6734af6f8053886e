import DocQuery.Double
/-!
# The shortest decimal of a double

Every double is the nearest one to a whole interval of real numbers. Of the
decimals in that interval, `Decimal.shortest` takes one with the fewest
digits, and of those the nearest to the value. For each count of digits only
the two neighbours of the value on the grid of such decimals need a look: if
any point of the grid lies in the interval, one of these does.
-/


namespace DocQuery

/-- The number `digits` times ten to the power `exponent`. -/
structure Decimal where
  digits : Nat
  exponent : Int
  deriving DecidableEq

namespace Decimal

/-- A value as a fraction, and the ends of the interval that rounds to it,
over one denominator. -/
structure Interval where
  low : Nat
  value : Nat
  high : Nat
  denominator : Nat
  closed : Bool

/-- The interval of the reals nearest to a finite double that is not zero,
signs apart. Below a power of two the neighbour is half as far away. An end
belongs to the interval if the significand is even. -/
def Interval.ofDouble (x : Double) : Interval :=
  let value := 4 * x.scaledMagnitude
  let narrow := x.fraction = 0 ∧ 1 < x.storedExponent
  { low := value - (if narrow then x.scaledUlp else 2 * x.scaledUlp)
    value
    high := value + 2 * x.scaledUlp
    denominator := 4 * Double.scale
    closed := x.significand % 2 = 0 }

/-- The interval in units of ten to the power `exponent`. -/
def Interval.inUnits (i : Interval) (exponent : Int) : Interval :=
  let down := Nat.pow 10 exponent.toNat
  let up := Nat.pow 10 (-exponent).toNat
  { i with
    low := i.low * up
    value := i.value * up
    high := i.high * up
    denominator := i.denominator * down }

/-- The decimal on the grid of multiples of ten to the power `exponent` that
lies in the interval, the nearer of two; a value half way between them goes
up. -/
def Interval.onGrid? (i : Interval) (exponent : Int) : Option Decimal :=
  let u := i.inUnits exponent
  let below := u.value / u.denominator
  let above := below + 1
  let belowIn :=
    if u.closed then u.low ≤ below * u.denominator else u.low < below * u.denominator
  let aboveIn :=
    if u.closed then above * u.denominator ≤ u.high else above * u.denominator < u.high
  let nearerAbove := u.denominator ≤ 2 * (u.value - below * u.denominator)
  if aboveIn ∧ (nearerAbove ∨ ¬ belowIn) then some ⟨above, exponent⟩
  else if belowIn then some ⟨below, exponent⟩
  else none

/-- Counts the powers of ten that a fraction has to be multiplied with until
it reaches one, at most `steps`. -/
def leadingZeros (value denominator : Nat) : Nat → Nat
  | 0 => 0
  | steps + 1 =>
    if denominator ≤ 10 * value then 0 else leadingZeros (10 * value) denominator steps + 1

/-- The least power of ten above the value of an interval. -/
def Interval.magnitude (i : Interval) : Int :=
  let whole := i.value / i.denominator
  if whole = 0 then -(leadingZeros i.value i.denominator 400 : Int)
  else (Nat.toDigits 10 whole).length

/-- Drops the zeros at the end of a digit string. -/
def trimZeros (digits : List Char) : List Char :=
  (digits.reverse.dropWhile (· == '0')).reverse

/-- The decimal with the fewest digits in the interval of a finite double,
the nearest of those. Seventeen digits tell all doubles apart. -/
def shortest (x : Double) : Decimal :=
  if x.scaledMagnitude = 0 then ⟨0, 0⟩
  else
    let i := Interval.ofDouble x
    let magnitude := i.magnitude
    let hit := (List.range 17).findSome? fun count => i.onGrid? (magnitude - (count + 1 : Nat))
    hit.getD ⟨0, 0⟩

/-- The digits of a decimal, written without an exponent: the whole part,
and behind a point what remains, without zeros at its end. -/
def positional (d : Decimal) : List Char :=
  let digits := Nat.toDigits 10 d.digits
  if 0 ≤ d.exponent then digits ++ List.replicate d.exponent.toNat '0'
  else
    let places := (-d.exponent).toNat
    let padded := List.replicate (places + 1 - digits.length) '0' ++ digits
    let whole := padded.take (padded.length - places)
    let rest := trimZeros (padded.drop (padded.length - places))
    if rest.isEmpty then whole else whole ++ '.' :: rest

end Decimal

namespace Double

/-- The text of a double: the shortest decimal that reads back, never with an
exponent, and a sign also for the negative zero. -/
def text (x : Double) : String :=
  if x.isNaN then "NaN"
  else
    let magnitude :=
      if x.isInfinite then "inf" else String.ofList (Decimal.shortest x).positional
    if x.isNegative then "-" ++ magnitude else magnitude

end Double

end DocQuery
