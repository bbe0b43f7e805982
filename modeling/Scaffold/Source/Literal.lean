import Scaffold.Text.Hexadecimal
import Scaffold.Text.Letters

/-!
Contract: the extent of a literal at the front of a text.

Owns:
- string, byte string and C string literals, cooked and raw;
- byte and character literals;
- numbers, floating point ones before integers.

Each recognizer takes the text from the literal's first character and answers with what
follows the literal, its suffix included, or with nothing where no such literal stands.
-/

namespace Scaffold.Source.Literal

open Scaffold.Text

/-- What follows a recognized piece of text, if it was recognized. -/
abbrev Rest := Option (List Char)

/-- A character that may begin an identifier, the underscore included. -/
def startsWord (char : Char) : Bool :=
  char == '_' || startsIdentifier char

/-- What follows a word that carries no raw mark. -/
def afterWord : List Char → Rest
  | [] => none
  | char :: rest =>
      if startsWord char then some (rest.dropWhile continuesIdentifier) else none

/-- What follows an optional suffix. -/
def afterSuffix (text : List Char) : List Char :=
  (afterWord text).getD text

/-- Refuse a text that begins with a character of an identifier. -/
def atWordBreak : List Char → Rest
  | [] => some []
  | char :: rest => if continuesIdentifier char then none else some (char :: rest)

/-! ## Escapes -/

/-- The code point between braces: up to six hexadecimal digits, with underscores behind the
first one. `count` is the number of digits read. -/
def bracedScalar
    (count value : Nat) :
    List Char → Option (Nat × List Char)
  | [] => none
  | char :: rest =>
      match hexValue? char with
      | some digit =>
          if count = 6 then none else bracedScalar (count + 1) (value * 16 + digit) rest
      | none =>
          if count = 0 then none
          else if char = '_' then bracedScalar count value rest
          else if char.toNat = 0x7D then
            if isScalar value then some (value, rest) else none
          else none

/-- The code point of a `u` escape, from its opening brace on. -/
def scalarEscape : List Char → Option (Nat × List Char)
  | [] => none
  | char :: rest => if char.toNat = 0x7B then bracedScalar 0 0 rest else none

/-- The value of an `x` escape, from its first digit on. -/
def byteEscape : List Char → Option (Nat × List Char)
  | high :: low :: rest => do
      let highValue ← hexValue? high
      let lowValue ← hexValue? low
      return (highValue * 16 + lowValue, rest)
  | _ => none

/-- The sorts of quoted literals, which differ in what they may hold. -/
inductive Quoted where
  | text
  | bytes
  | terminated
  deriving DecidableEq, Repr

namespace Quoted

/-- May the value come out of an `x` escape? -/
def allowsByte : Quoted → Nat → Bool
  | .text, value => value < 0x80
  | .bytes, _ => true
  | .terminated, value => value != 0

/-- May the character stand for itself? -/
def allowsChar : Quoted → Char → Bool
  | .text, _ => true
  | .bytes, char => char.toNat < 0x80
  | .terminated, char => char.toNat != 0

/-- Are there escapes by code point, and may this code point come out of one? -/
def allowsScalar : Quoted → Nat → Bool
  | .text, _ => true
  | .bytes, _ => false
  | .terminated, value => value != 0

/-- May a backslash stand in front of the character, which then is one character? -/
def allowsSimple : Quoted → Char → Bool
  | sort, char =>
      char == 'n' || char == 'r' || char == 't' || char == '\\' || char == '\'' || char == '"'
        || (char == '0' && sort != .terminated)

end Quoted

/-- What follows the blanks behind a backslash at the end of a line; a carriage return among
them must have a line feed behind it, and the text must go on. -/
def afterContinuation : List Char → Rest
  | [] => none
  | '\r' :: '\n' :: rest => afterContinuation rest
  | '\r' :: _ => none
  | char :: rest =>
      if char = ' ' || char = '\t' || char = '\n' then afterContinuation rest
      else some (char :: rest)

/-- What follows the closing quote and suffix of a cooked literal. -/
def afterCooked
    (sort : Quoted) :
    Nat → List Char → Rest
  | 0, _ => none
  | _ + 1, [] => none
  | _ + 1, '"' :: rest => some (afterSuffix rest)
  | fuel + 1, '\r' :: '\n' :: rest => afterCooked sort fuel rest
  | _ + 1, '\r' :: _ => none
  | fuel + 1, '\\' :: 'x' :: rest => do
      let (value, after) ← byteEscape rest
      if sort.allowsByte value then afterCooked sort fuel after else none
  | fuel + 1, '\\' :: 'u' :: rest => do
      let (value, after) ← scalarEscape rest
      if sort.allowsScalar value then afterCooked sort fuel after else none
  | fuel + 1, '\\' :: '\n' :: rest => do
      afterCooked sort fuel (← afterContinuation rest)
  | fuel + 1, '\\' :: '\r' :: rest => do
      afterCooked sort fuel (← afterContinuation ('\r' :: rest))
  | fuel + 1, '\\' :: char :: rest =>
      if sort.allowsSimple char then afterCooked sort fuel rest else none
  | fuel + 1, char :: rest =>
      if char != '\\' && sort.allowsChar char then afterCooked sort fuel rest else none

/-- The number of hash marks in front of a raw literal's quote, and what follows the quote. -/
def rawFence : List Char → Option (Nat × List Char)
  | '"' :: rest => some (0, rest)
  | '#' :: rest => (rawFence rest).map fun found => (found.1 + 1, found.2)
  | _ => none

/-- What follows `count` hash marks. -/
def afterHashes : Nat → List Char → Rest
  | 0, text => some text
  | count + 1, '#' :: rest => afterHashes count rest
  | _ + 1, _ => none

/-- What follows the closing quote, hash marks and suffix of a raw literal. -/
def afterRawBody
    (sort : Quoted)
    (fence : Nat) :
    List Char → Rest
  | [] => none
  | '\r' :: '\n' :: rest => afterRawBody sort fence rest
  | '\r' :: _ => none
  | '"' :: rest =>
      match afterHashes fence rest with
      | some after => some (afterSuffix after)
      | none => afterRawBody sort fence rest
  | char :: rest => if sort.allowsChar char then afterRawBody sort fence rest else none

/-- What follows a raw literal, from its first hash mark or quote on. -/
def afterRaw
    (sort : Quoted)
    (text : List Char) :
    Rest := do
  let (fence, body) ← rawFence text
  if fence > 255 then none else afterRawBody sort fence body

/-- What follows the inside, closing quote and suffix of a character or byte literal. -/
def afterCharacter
    (sort : Quoted)
    (text : List Char) :
    Rest := do
  let after ←
    match text with
    | '\\' :: 'x' :: rest => do
        let (value, after) ← byteEscape rest
        if sort.allowsByte value then some after else none
    | '\\' :: 'u' :: rest => do
        let (_, after) ← scalarEscape rest
        if sort = .text then some after else none
    | '\\' :: char :: rest => if sort.allowsSimple char then some rest else none
    | char :: rest => if char != '\\' && sort.allowsChar char then some rest else none
    | [] => none
  match after with
  | '\'' :: rest => some (afterSuffix rest)
  | _ => none

/-- What follows a literal in quotes, with the letters in front of its quote. -/
def afterQuoted : List Char → Rest
  | '"' :: rest => afterCooked .text (rest.length + 1) rest
  | 'r' :: rest => afterRaw .text rest
  | 'b' :: '"' :: rest => afterCooked .bytes (rest.length + 1) rest
  | 'b' :: 'r' :: rest => afterRaw .bytes rest
  | 'c' :: '"' :: rest => afterCooked .terminated (rest.length + 1) rest
  | 'c' :: 'r' :: rest => afterRaw .terminated rest
  | 'b' :: '\'' :: rest => afterCharacter .bytes rest
  | '\'' :: rest => afterCharacter .text rest
  | _ => none

/-! ## Numbers -/

/-- Digits and underscores. -/
def afterDigits (text : List Char) : List Char :=
  text.dropWhile fun char => isAsciiDigit char || char == '_'

/-- What follows the sign and digits of an exponent, if there is a digit. -/
def afterExponent (text : List Char) : Rest :=
  let unsigned := text.dropWhile (· == '_')
  let digits :=
    match unsigned with
    | '+' :: rest => rest
    | '-' :: rest => rest
    | rest => rest
  let digitRun := digits.takeWhile fun char => isAsciiDigit char || char == '_'
  if digitRun.any isAsciiDigit then some (afterDigits digits) else none

/-- What follows the digits of a floating point number: digits with a point or an exponent.
A point does not count in front of another point or a name; an exponent without digits
belongs to the suffix where there was a point, and makes no such number where there was
none. -/
def afterFloatDigits : List Char → Rest
  | [] => none
  | first :: rest =>
      if isAsciiDigit first then
        match afterDigits rest with
        | '.' :: fraction =>
            let blocked :=
              match fraction with
              | next :: _ => next == '.' || startsWord next
              | [] => false
            if blocked then none
            else
              let after := afterDigits fraction
              match after with
              | 'e' :: exponent => some ((afterExponent exponent).getD after)
              | 'E' :: exponent => some ((afterExponent exponent).getD after)
              | _ => some after
        | 'e' :: exponent => afterExponent exponent
        | 'E' :: exponent => afterExponent exponent
        | _ => none
      else none

/-- The base of a number and what follows the mark of the base. -/
def numberBase : List Char → Nat × List Char
  | '0' :: 'x' :: rest => (16, rest)
  | '0' :: 'o' :: rest => (8, rest)
  | '0' :: 'b' :: rest => (2, rest)
  | text => (10, text)

/-- What follows the digits of an integer. A decimal digit too large for the base is an error,
a letter too large for it ends the digits; `empty` tells that no digit was read yet. -/
def afterIntegerDigits
    (base : Nat)
    (empty : Bool) :
    List Char → Rest
  | [] => if empty then none else some []
  | char :: rest =>
      if char = '_' then
        if empty && base == 10 then none else afterIntegerDigits base empty rest
      else
        match hexValue? char with
        | some digit =>
            if digit < base then afterIntegerDigits base false rest
            else if isAsciiDigit char then none
            else if empty then none
            else some (char :: rest)
        | none => if empty then none else some (char :: rest)

/-- The value of the digits of an integer behind the number `value`. Underscores do not count;
anything but a digit of the base is none. -/
def integerFrom
    (base value : Nat) :
    List Char → Option Nat
  | [] => some value
  | char :: rest =>
      if char = '_' then integerFrom base value rest
      else
        match hexValue? char with
        | some digit =>
            if digit < base then integerFrom base (value * base + digit) rest else none
        | none => none

/-- The value of the integer that a text is, in any base; one with a suffix has none. -/
def integer? (text : List Char) : Option Nat :=
  let (base, digits) := numberBase text
  match digits with
  | [] => none
  | '_' :: rest => if base = 10 || rest.all (· == '_') then none else integerFrom base 0 rest
  | _ => integerFrom base 0 digits

/-- What follows an integer with its suffix. -/
def afterInteger (text : List Char) : Rest := do
  let (base, digits) := numberBase text
  let after ← afterIntegerDigits base true digits
  atWordBreak (afterSuffix after)

/-- What follows a floating point number with its suffix. -/
def afterFloat (text : List Char) : Rest := do
  let after ← afterFloatDigits text
  atWordBreak (afterSuffix after)

/-- What follows the literal at the front of a text. -/
def after (text : List Char) : Rest :=
  afterQuoted text <|> afterFloat text <|> afterInteger text

end Scaffold.Source.Literal
