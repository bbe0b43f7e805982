/-!
Contract: numbers of double precision.

Owns:
- doubles as a sign and a place, and their order;
- the double nearest to a decimal number.

The doubles without a sign are counted from zero up, so neighbours have neighbouring places and
the order of places is that of the numbers. Every double is a whole multiple of the least
positive one, which makes comparisons exact.
-/

namespace Scaffold.Decimal

/-- A number of double precision, or none. The last place is that of infinity. -/
inductive Double where
  | notANumber
  | number (negative : Bool) (place : Nat)
  deriving DecidableEq, Repr

namespace Double

/-- How many places a doubling takes. -/
def octave : Nat := 0x10000000000000

/-- The place of infinity. -/
def infinity : Nat := 2047 * octave

/-- How many of the least positive doubles make up one. -/
def unitsPerOne : Nat := Nat.shiftLeft 1 1074

/-- How many of the least positive doubles make up the double of a place. -/
def units (place : Nat) : Nat :=
  if place < octave then place
  else Nat.shiftLeft (octave + place % octave) (place / octave - 1)

/-- The quotient rounded to the nearest whole number, to the even one of two equally near. -/
def roundedQuotient (numerator denominator : Nat) : Nat :=
  let quotient := numerator / denominator
  let twice := 2 * (numerator % denominator)
  if denominator < twice || (twice = denominator && quotient % 2 = 1) then quotient + 1
  else quotient

/-- The place of the double nearest to a fraction of the least positive double. The fraction is
rounded to as many doublings of it as leave the quotient within an octave. -/
def nearestPlace (numerator denominator : Nat) : Nat :=
  let whole := numerator / denominator
  let doublings := whole.log2 - 52
  min infinity
    (doublings * octave + roundedQuotient numerator (Nat.shiftLeft denominator doublings))

/-- The largest power of ten that is told from zero and infinity by its size alone. -/
def greatestSize : Int := 400

/-- The place of the double nearest to `digits` times ten to the power `exponent`. -/
def placeOfDecimal (digits : Nat) (exponent : Int) : Nat :=
  let size := Int.ofNat (Nat.toDigits 10 digits).length + exponent
  if digits = 0 || size < -greatestSize then 0
  else if greatestSize < size then infinity
  else
    nearestPlace (digits * unitsPerOne * Nat.pow 10 exponent.toNat)
      (Nat.pow 10 (-exponent).toNat)

/-- What a double is ordered by. -/
def key (negative : Bool) (place : Nat) : Int :=
  if negative then -(Int.ofNat place) else Int.ofNat place

/-- Compare doubles by their size; both zeros are equal, and what is no number comes last. -/
def compare : Double → Double → Ordering
  | .notANumber, .notANumber => .eq
  | .notANumber, .number _ _ => .gt
  | .number _ _, .notANumber => .lt
  | .number leftSign left, .number rightSign right =>
      Ord.compare (key leftSign left) (key rightSign right)

end Double

end Scaffold.Decimal
