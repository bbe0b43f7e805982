import Scaffold.Source.Literal

/-!
Contract: the value of a string literal.

Owns:
- the value of cooked and of raw string literals, suffix or not.

A literal of any other sort, byte strings among them, has no value here.
-/

namespace Scaffold.Source.StringLiteral

open Literal

/-- The character of an escape that is a backslash and one more character. -/
def simpleEscape? (char : Char) : Option Char :=
  if char = 'n' then some '\n'
  else if char = 'r' then some '\r'
  else if char = 't' then some '\t'
  else if char = '0' then some '\x00'
  else if char = '\\' || char = '\'' || char = '"' then some char
  else none

/-- Is the character passed over behind a backslash at the end of a line? -/
def isContinuationBlank (char : Char) : Bool :=
  char == ' ' || char == '\t' || char == '\n' || char == '\r'

/-- The value of a cooked literal behind its opening quote. -/
def cookedValue : Nat → List Char → Option (List Char)
  | 0, _ => none
  | _ + 1, [] => none
  | _ + 1, '"' :: _ => some []
  | fuel + 1, '\r' :: '\n' :: rest => (cookedValue fuel rest).map ('\n' :: ·)
  | fuel + 1, '\\' :: 'x' :: rest => do
      let (value, after) ← byteEscape rest
      return Char.ofNat value :: (← cookedValue fuel after)
  | fuel + 1, '\\' :: 'u' :: rest => do
      let (value, after) ← scalarEscape rest
      return Char.ofNat value :: (← cookedValue fuel after)
  | fuel + 1, '\\' :: char :: rest =>
      if char = '\n' || char = '\r' then
        cookedValue fuel (rest.dropWhile isContinuationBlank)
      else do
        let value ← simpleEscape? char
        return value :: (← cookedValue fuel rest)
  | fuel + 1, char :: rest => (cookedValue fuel rest).map (char :: ·)

/-- The value of a raw literal behind its opening quote: what stands in front of the first quote
with `fence` hash marks behind it. -/
def rawValue (fence : Nat) : List Char → Option (List Char)
  | [] => none
  | '"' :: rest =>
      if (afterHashes fence rest).isSome then some []
      else (rawValue fence rest).map ('"' :: ·)
  | char :: rest => (rawValue fence rest).map (char :: ·)

/-- The value of the literal that a text is. -/
def value? (text : String) : Option String :=
  match text.toList with
  | '"' :: rest => (cookedValue (rest.length + 1) rest).map String.ofList
  | 'r' :: rest => do
      let (fence, body) ← rawFence rest
      return String.ofList (← rawValue fence body)
  | _ => none

end Scaffold.Source.StringLiteral
