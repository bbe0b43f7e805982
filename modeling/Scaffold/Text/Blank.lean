/-!
Contract: the characters that count as blank, and trimming by them.

Owns:
- the class of white space characters of the character standard;
- trimming of a text at both of its ends.
-/

namespace Scaffold.Text

/-- White space: the ASCII blanks with their controls, the no-break and ideographic spaces,
the typographic spaces and the line and paragraph separators. -/
def isBlank (char : Char) : Bool :=
  let code := char.toNat
  (0x09 ≤ code && code ≤ 0x0D) || code == 0x20 || code == 0x85 || code == 0xA0
    || code == 0x1680 || (0x2000 ≤ code && code ≤ 0x200A) || code == 0x2028
    || code == 0x2029 || code == 0x202F || code == 0x205F || code == 0x3000

/-- `text` without blanks at its two ends. -/
def trimChars (text : List Char) : List Char :=
  ((text.dropWhile isBlank).reverse.dropWhile isBlank).reverse

/-- `text` without blanks at its two ends. -/
def trim (text : String) : String :=
  String.ofList (trimChars text.toList)

/-- `text` without blanks at its end. -/
def trimEnd (text : String) : String :=
  String.ofList (text.toList.reverse.dropWhile isBlank).reverse

end Scaffold.Text
