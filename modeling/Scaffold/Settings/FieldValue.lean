import Scaffold.Decimal.Spelling
import Scaffold.Text.Pattern

/-!
Contract: the values that a rule of a log filter asks of a field.

Owns:
- truth values, numbers and patterns, and which of them a text spells;
- their order and their text.

A text is taken for the first sort of value that it spells: a truth value, a whole number
without a minus sign, one with it, any other number, and else a pattern.
-/

namespace Scaffold

/-- A value that a field has to have, or the pattern that it has to match. -/
inductive FieldValue where
  | truth (value : Bool)
  | double (value : Decimal.Double)
  | natural (value : Nat)
  | integer (value : Int)
  | pattern (text : String)
  deriving DecidableEq, Repr

namespace FieldValue

/-- How many numbers sixty-four bits hold. -/
def wordSize : Nat := 0x10000000000000000

/-- The whole number without a minus sign that a text spells, if sixty-four bits hold it. -/
def natural? (text : List Char) : Option FieldValue :=
  let digits :=
    match text with
    | '+' :: rest => rest
    | _ => text
  match Decimal.natural? digits with
  | some value => if value < wordSize then some (.natural value) else none
  | none => none

/-- The whole number that a text spells, if sixty-four bits hold it with its sign. -/
def integer? (text : List Char) : Option FieldValue :=
  match Decimal.integer? text with
  | some value =>
      if -(Int.ofNat (wordSize / 2)) ≤ value && value < Int.ofNat (wordSize / 2) then
        some (.integer value)
      else none
  | none => none

/-- The truth value that a text spells. -/
def truth? (text : List Char) : Option FieldValue :=
  if text = "true".toList then some (.truth true)
  else if text = "false".toList then some (.truth false)
  else none

/-- The pattern that a text spells, if it is one. -/
def pattern? (text : List Char) : Option FieldValue :=
  if Text.Pattern.isWellFormed text then some (.pattern (String.ofList text)) else none

/-- The value that a text spells. -/
def ofText? (text : List Char) : Option FieldValue :=
  truth? text <|> natural? text <|> integer? text
    <|> (Decimal.Double.ofText? text).map FieldValue.double <|> pattern? text

/-- The value in words. -/
def text : FieldValue → String
  | .truth value => toString value
  | .double value => value.text
  | .natural value => toString value
  | .integer value => toString value
  | .pattern text => text

/-- The place of a sort of values in their order. -/
def rank : FieldValue → Nat
  | .truth _ => 0
  | .double _ => 1
  | .natural _ => 2
  | .integer _ => 3
  | .pattern _ => 4

/-- Compare values by their sort, and values of one sort by their size or text. -/
def compare : FieldValue → FieldValue → Ordering
  | .truth left, .truth right => Ord.compare left.toNat right.toNat
  | .double left, .double right => left.compare right
  | .natural left, .natural right => Ord.compare left right
  | .integer left, .integer right => Ord.compare left right
  | .pattern left, .pattern right => Ord.compare left right
  | left, right => Ord.compare left.rank right.rank

end FieldValue

end Scaffold
