/-!
Contract: numbers to the base of sixteen, and the code points that they spell.

Owns:
- the value of a digit;
- which numbers are the code points of characters.
-/

namespace Scaffold.Text

/-- The value of a hexadecimal digit. -/
def hexValue? (char : Char) : Option Nat :=
  let code := char.toNat
  if 0x30 ≤ code && code ≤ 0x39 then some (code - 0x30)
  else if 0x61 ≤ code && code ≤ 0x66 then some (code - 0x57)
  else if 0x41 ≤ code && code ≤ 0x46 then some (code - 0x37)
  else none

/-- Is the number a code point of a character? -/
def isScalar (value : Nat) : Bool :=
  value < 0xD800 || (0xE000 ≤ value && value < 0x110000)

end Scaffold.Text
