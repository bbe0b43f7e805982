import Scaffold.Decimal.Double
import Scaffold.Text.Letters

/-!
Contract: doubles as text.

Owns:
- reading a double from a decimal number, or from the words for infinity and for no number;
- the fewest digits that read back, written without an exponent.

A decimal number reads back as a double if it lies no further from it than from its neighbours.
Of all decimals with the fewest digits the nearest is written.
-/

namespace Scaffold.Decimal

open Scaffold.Text

/-! ## Reading -/

/-- Split a text into the sign in front of it, whether that is a minus, and the rest. -/
def splitSign : List Char → Bool × List Char
  | '-' :: rest => (true, rest)
  | '+' :: rest => (false, rest)
  | text => (false, text)

/-- The number that a row of digits spells. -/
def digitsValue (digits : List Char) : Nat :=
  digits.foldl (fun value digit => value * 10 + (digit.toNat - '0'.toNat)) 0

/-- The number that a text spells which is nothing but digits. -/
def natural? (text : List Char) : Option Nat :=
  if text.isEmpty || !text.all isAsciiDigit then none else some (digitsValue text)

/-- The whole number that a text spells, with a sign or without. -/
def integer? (text : List Char) : Option Int :=
  let (negative, digits) := splitSign text
  (natural? digits).map fun value => if negative then -(Int.ofNat value) else Int.ofNat value

/-- The exponent that the end of a number spells: none at all is zero. -/
def exponent? : List Char → Option Int
  | [] => some 0
  | mark :: rest => if mark = 'e' || mark = 'E' then integer? rest else none

/-- The place of the double that a number without sign spells: digits with or without a point
among or around them, and an exponent. -/
def unsignedPlace? (text : List Char) : Option Nat := do
  let whole := text.takeWhile isAsciiDigit
  let behind := text.dropWhile isAsciiDigit
  let (fraction, rest) :=
    match behind with
    | '.' :: rest => (rest.takeWhile isAsciiDigit, rest.dropWhile isAsciiDigit)
    | rest => ([], rest)
  if whole.isEmpty && fraction.isEmpty then none
  else
    let exponent ← exponent? rest
    return Double.placeOfDecimal (digitsValue (whole ++ fraction))
      (exponent - Int.ofNat fraction.length)

/-- The double that a text spells. Words may be in letters of any case. -/
def Double.ofText? (text : List Char) : Option Double :=
  let (negative, unsigned) := splitSign text
  let letters := String.ofList (unsigned.map Char.toLower)
  if letters = "nan" then some .notANumber
  else if letters = "inf" || letters = "infinity" then some (.number negative infinity)
  else (unsignedPlace? unsigned).map fun place => .number negative place

/-! ## Writing -/

/-- A decimal number: `digits` times ten to the power `exponent`. -/
structure Scaled where
  digits : Nat
  exponent : Int
  deriving DecidableEq, Repr

namespace Scaled

/-- Compare a decimal number with a multiple of half the least positive double. -/
def compareHalves (decimal : Scaled) (halves : Nat) : Ordering :=
  compare (decimal.digits * (2 * Double.unitsPerOne) * Nat.pow 10 decimal.exponent.toNat)
    (halves * Nat.pow 10 (-decimal.exponent).toNat)

/-- Is the double of a place the one that a decimal number is read as? The ends of what is read
as it belong to it if it has an even place. -/
def readsBack (decimal : Scaled) (place : Nat) : Bool :=
  let units := Double.units place
  let above := decimal.compareHalves (Double.units (place - 1) + units)
  let below := decimal.compareHalves (units + Double.units (place + 1))
  let even := place % 2 = 0
  (above = .gt || (even && above = .eq)) && (below = .lt || (even && below = .eq))

/-- The greatest multiple of ten to the power `exponent` that is not above the double of a
place. -/
def below (place : Nat) (exponent : Int) : Scaled :=
  ⟨Double.units place * Nat.pow 10 (-exponent).toNat
      / (Double.unitsPerOne * Nat.pow 10 exponent.toNat), exponent⟩

/-- The multiple of ten to the power `exponent` that is read as the double of a place: the
nearer one of two, and the greater one of two equally near. -/
def onGrid? (place : Nat) (exponent : Int) : Option Scaled :=
  let lower := below place exponent
  let upper : Scaled := ⟨lower.digits + 1, exponent⟩
  let middle : Scaled := ⟨10 * lower.digits + 5, exponent - 1⟩
  match lower.readsBack place, upper.readsBack place with
  | true, true =>
      if middle.compareHalves (2 * Double.units place) = .gt then some lower else some upper
  | true, false => some lower
  | false, true => some upper
  | false, false => none

/-- The decimal number without zeros at the end of its digits; `fuel` bounds their number. -/
def withoutEndZeros : Nat → Scaled → Scaled
  | 0, decimal => decimal
  | fuel + 1, decimal =>
      if decimal.digits != 0 && decimal.digits % 10 = 0 then
        withoutEndZeros fuel ⟨decimal.digits / 10, decimal.exponent + 1⟩
      else decimal

/-- How many digits are enough for every double to be read back. -/
def enoughDigits : Nat := 17

/-- How many digits stand behind the point of the least positive double in front of its first
one that is not zero, that one included. -/
def leastDigitPlace : Nat := 324

/-- The exponent of the first power of ten that is greater than the double of a place. -/
def magnitude (place : Nat) : Int :=
  let scaled := (below place (-(Int.ofNat leastDigitPlace))).digits
  Int.ofNat (Nat.toDigits 10 scaled).length - Int.ofNat leastDigitPlace

/-- The shortest decimal number that is read as the double of a place other than zero. -/
def shortest (place : Nat) : Scaled :=
  let size := magnitude place
  let grids := (List.range enoughDigits).map fun count => size - Int.ofNat (count + 1)
  let chosen := (grids.findSome? (onGrid? place)).getD (below place (-1074))
  withoutEndZeros (Nat.toDigits 10 chosen.digits).length chosen

/-- The text of a decimal number, without an exponent. -/
def text (decimal : Scaled) : String :=
  let digits := Nat.toDigits 10 decimal.digits
  let zeros (count : Nat) : List Char := List.replicate count '0'
  let behindPoint := (-decimal.exponent).toNat
  String.ofList
    (if behindPoint = 0 then digits ++ zeros decimal.exponent.toNat
      else if behindPoint < digits.length then
        digits.take (digits.length - behindPoint) ++ '.'
          :: digits.drop (digits.length - behindPoint)
      else '0' :: '.' :: zeros (behindPoint - digits.length) ++ digits)

end Scaled

/-- The text of a double. -/
def Double.text : Double → String
  | .notANumber => "NaN"
  | .number negative place =>
      (if negative then "-" else "")
        ++ (if place = 0 then "0"
            else if place = infinity then "inf"
            else (Scaled.shortest place).text)

end Scaffold.Decimal
