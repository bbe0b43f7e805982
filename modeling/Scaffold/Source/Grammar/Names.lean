import Scaffold.Source.Parser
import Scaffold.Source.Tree

/-!
Contract: the parts of the grammar that other parts share.

Owns:
- the table of the mutually dependent readers;
- plain paths, macro arguments, attributes and visibilities.

Readers that depend on each other in a circle get each other from the table `Grammar`, so each
of them is a plain definition. The table is tied to itself, to a depth that the number of
tokens bounds, where whole texts are read.
-/

namespace Scaffold.Source

/-- How tightly an operator binds, the loosest first. -/
inductive Precedence where
  | jump
  | assign
  | range
  | or
  | and
  | letting
  | compare
  | bitOr
  | bitXor
  | bitAnd
  | shift
  | sum
  | product
  | cast
  deriving DecidableEq, Repr

/-- The place of a precedence in the order of tightness. -/
def Precedence.rank : Precedence → Nat
  | .jump => 0
  | .assign => 1
  | .range => 2
  | .or => 3
  | .and => 4
  | .letting => 5
  | .compare => 6
  | .bitOr => 7
  | .bitXor => 8
  | .bitAnd => 9
  | .shift => 10
  | .sum => 11
  | .product => 12
  | .cast => 13

/-- The readers that depend on each other. -/
structure Grammar where
  /-- A type; the flag allows a sum of bounds without parentheses. -/
  type : Bool → Parser (Node .type)
  /-- An expression; the flag allows a structure literal without parentheses. -/
  expr : Bool → Parser (Node .expr)
  /-- An operand with its prefix operators and what is applied to it. -/
  operand : Bool → Parser (Node .expr)
  /-- The operators behind a left operand that bind at least as tightly as given. -/
  operators : Node .expr → Bool → Precedence → Parser (Node .expr)
  /-- A match, without what is applied to it. -/
  matching : Parser (Node .expr)
  /-- A pattern without alternatives at its top. -/
  pattern : Parser (Node .pattern)
  /-- The statements up to the end of a block. -/
  statements : Parser (Node (.many .statement))
  /-- An item of a module. -/
  item : Parser (Node .item)
  /-- A tree of imported names; nothing where it holds a path from the root in a group. -/
  useTree : Bool → Parser (Option (Node .useTree))

/-- The table whose readers all fail. -/
def Grammar.empty : Grammar where
  type := fun _ => Parser.refuse
  expr := fun _ => Parser.refuse
  operand := fun _ => Parser.refuse
  operators := fun _ _ _ => Parser.refuse
  matching := Parser.refuse
  pattern := Parser.refuse
  statements := Parser.refuse
  item := Parser.refuse
  useTree := fun _ => Parser.refuse

namespace Grammar

open Source.Parser

/-- Words that a plain path may be made of besides identifiers. -/
def pathWords : List String :=
  ["super", "self", "Self", "crate"]

/-- Is a name of a plain path ahead? -/
def atPathName : Test := fun tokens =>
  atIdentifier tokens || pathWords.any fun text => atWord text tokens

/-- May a plain path, from the root or not, begin here? The capital self may not begin one
where an item may stand. -/
def atInvocationPath : Test := fun tokens =>
  atIdentifier tokens || atWord "self" tokens || atWord "super" tokens
    || atWord "crate" tokens || atMarks "::" tokens

/-- Read a path of names alone. -/
def plainPath : Parser PlainPath := do
  let leading ← optionalMarks "::"
  let names ← separatedWhile (fun tokens => !atPathName tokens) "::" anyWord
  require (!names.elements.isEmpty && !names.trailing)
  return ⟨leading, names.elements⟩

/-- Read the bang and the arguments of a macro behind its path. -/
def invocationBehind (path : PlainPath) : Parser Invocation := do
  marks "!"
  let (delimiter, body) ← anyGroup
  return ⟨path, delimiter, body⟩

/-- Read a macro invocation. -/
def invocation : Parser Invocation := do
  invocationBehind (← plainPath)

/-- Read the path of an attribute, which may be the word for unchecked code. -/
def attributePath : Parser PlainPath := do
  if ← peek (atWord "unsafe") then
    return ⟨false, [← anyWord]⟩
  else
    plainPath

/-- Read the value of an attribute: a literal that is all of it, or an expression, which may
not begin with an attribute. -/
def attributeValue (grammar : Grammar) : Parser (Node .expr) := do
  let whole ← attempt do
    let text ← literal
    require (← peek atEnd)
    return text
  match whole with
  | some text => return .literalExpr text
  | none =>
      let nested ← peek fun tokens => atMarks "#" tokens && second atBracket tokens
      require (!nested)
      grammar.expr true

/-- Read the content of an attribute's brackets. -/
def attributeContent
    (grammar : Grammar)
    (inner : Bool) :
    Parser (Node .attribute) := do
  let path ← attributePath
  if ← peek (fun tokens => atParenthesis tokens || atBracket tokens || atBrace tokens) then
    let (delimiter, body) ← anyGroup
    return .listAttribute inner path delimiter body
  else if ← optionalMarks "=" then
    return .valueAttribute inner path (← attributeValue grammar)
  else
    return .pathAttribute inner path

/-- Read one outer attribute. -/
def outerAttribute (grammar : Grammar) : Parser (Node .attribute) := do
  marks "#"
  inside .bracket (attributeContent grammar false)

/-- Read one inner attribute. -/
def innerAttribute (grammar : Grammar) : Parser (Node .attribute) := do
  marks "#"
  marks "!"
  inside .bracket (attributeContent grammar true)

/-- Read the outer attributes ahead. -/
def outerAttributes (grammar : Grammar) : Parser (Node (.many .attribute)) := do
  return .ofList (← repeatWhile (atMarks "#") (outerAttribute grammar))

/-- Read the inner attributes ahead. -/
def innerAttributes (grammar : Grammar) : Parser (Node (.many .attribute)) := do
  return .ofList
    (← repeatWhile (fun tokens => atMarks "#" tokens && second (atMarks "!") tokens)
      (innerAttribute grammar))

/-- Read the restriction behind the word for public, if what stands in parentheses there is
one; a tuple of types is none. -/
def restriction : Parser (Option Visibility) := do
  let ahead ← get
  match ahead with
  | .opening .parenthesis :: .word text :: rest =>
      if text = "crate" || text = "self" || text = "super" then
        match rest with
        | .closing _ :: after =>
            set after
            return some (.within false ⟨false, [text]⟩)
        | _ => return none
      else if text = "in" then
        let path ← inside .parenthesis (do word "in"; plainPath)
        return some (.within true path)
      else
        return none
  | _ => return none

/-- Read a visibility, which may be empty. -/
def visibility : Parser Visibility := do
  if ← optionalWord "pub" then
    return (← restriction).getD .everywhere
  else
    return .inherited

/-- Read a name, or the underscore in its place. -/
def identifierOrUnderscore : Parser String := do
  require (← peek fun tokens => atIdentifier tokens || atWord "_" tokens)
  anyWord

end Grammar

end Scaffold.Source
