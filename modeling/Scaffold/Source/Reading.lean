import Scaffold.Source.Grammar.Statements
import Scaffold.Source.Scan

/-!
Contract: reading whole source texts.

Owns:
- the grammar, tied to itself;
- readers of a type, of a method of a trait, of a trait and of a file.

A text is read to its end or not at all. Going round the circle of mutually dependent readers
four times takes at least one token, so four times the number of tokens bounds the depth.
-/

namespace Scaffold.Source

namespace Grammar

/-- The table of readers over the table for what stands one level deeper. -/
def deepen (deeper : Grammar) : Grammar where
  type := readType deeper
  expr := readExpr deeper
  operand := readOperand deeper
  operators := readOperators deeper
  matching := matchExpr deeper
  pattern := readPattern deeper
  statements := readStatements deeper
  item := readItem deeper
  useTree := readUseTree deeper

/-- The table of readers for trees of limited depth. -/
def toDepth : Nat → Grammar
  | 0 => .empty
  | depth + 1 => deepen (toDepth depth)

end Grammar

open Source.Parser Grammar

/-- What a reader makes of all the tokens of a row. -/
def readAll
    {α : Type}
    (reader : Grammar → Parser α)
    (tokens : List Token) :
    Option α :=
  match reader (Grammar.toDepth (4 * tokens.length + 16)) tokens with
  | some (value, []) => some value
  | _ => none

/-- What a reader makes of a whole text. -/
def readText
    {α : Type}
    (reader : Grammar → Parser α)
    (text : String) :
    Option α :=
  (Scan.tokens? text.toList).bind (readAll reader)

/-- The type that a text spells. -/
def readTypeText (text : String) : Option (Node .type) :=
  readText (fun grammar => readType grammar true) text

/-- The signature of the method of a trait that a text spells. -/
def readMethodText (text : String) : Option (Node .signature) :=
  readText
    (fun grammar => do
      let attributes ← outerAttributes grammar
      match ← traitMethod grammar attributes with
      | .functionItem _ _ _ signature _ => return signature
      | _ => refuse)
    text

/-- The trait that a text spells; an alias is none. -/
def readTraitText (text : String) : Option (Node .item) :=
  readText
    (fun grammar => do
      let tokens ← get
      let attributes ← outerAttributes grammar
      let access ← visibility
      let item ← traitItem grammar ⟨tokens, attributes, access⟩
      match item with
      | .traitItem _ _ _ _ _ _ _ _ _ _ _ => return item
      | _ => refuse)
    text

/-- A file: its inner attributes and its items. -/
structure SourceFile where
  attributes : List (Node .attribute)
  items : List (Node .item)

/-- The text of a file without the line in front that names its interpreter. An attribute of
the file begins alike, and is none. -/
def withoutInterpreter (text : List Char) : List Char :=
  match text with
  | '#' :: '!' :: rest =>
      match Scan.skipGaps (rest.length + 1) rest with
      | '[' :: _ => text
      | _ => rest.dropWhile fun char => char != '\n'
  | _ => text

/-- Read the content of a file. -/
def fileContent (grammar : Grammar) : Parser SourceFile := do
  let inner ← innerAttributes grammar
  let items ← repeatToEnd grammar.item
  return ⟨inner.toList, items⟩

/-- The file that a text spells. -/
def SourceFile.ofText? (text : String) : Option SourceFile :=
  (Scan.tokens? (withoutInterpreter (Scan.withoutByteOrderMark text.toList))).bind
    (readAll fileContent)

end Scaffold.Source
