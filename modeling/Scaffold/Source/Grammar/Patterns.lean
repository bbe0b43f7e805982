import Scaffold.Source.Grammar.Types
import Scaffold.Source.Literal

/-!
Contract: the grammar of patterns.

Owns:
- patterns of every form, with and without alternatives at their top;
- the bounds of range patterns.
-/

namespace Scaffold.Source.Grammar

open Source.Parser

/-- Is a bar ahead that separates alternatives? -/
def atBar : Test := fun tokens =>
  atMarks "|" tokens && !atMarks "||" tokens && !atMarks "|=" tokens

/-- Read alternatives behind a first one, or that one alone. -/
def alternativesBehind
    (grammar : Grammar)
    (leading : Bool)
    (first : Node .pattern) :
    Parser (Node .pattern) := do
  let others ← repeatWhile atBar do
    marks "|"
    grammar.pattern
  if leading || !others.isEmpty then
    return .orPattern leading (.ofList (first :: others))
  else
    return first

/-- Read a pattern that may have alternatives at its top and a bar in front of them. -/
def alternatives (grammar : Grammar) : Parser (Node .pattern) := do
  let leading ← optionalMarks "|"
  let first ← grammar.pattern
  alternativesBehind grammar leading first

/-- Does a pattern end here, so that a range has no bound? -/
def atPatternEnd : Test := fun tokens =>
  atEnd tokens || atMarks "|" tokens || atMarks "=" tokens
    || (atMarks ":" tokens && !atMarks "::" tokens) || atMarks "," tokens
    || atMarks ";" tokens || atWord "if" tokens

/-- Does a path among patterns or expressions begin here? -/
def atExprPath : Test := fun tokens =>
  atPathName tokens || atMarks "::" tokens || atMarks "<" tokens

/-- Read a constant block. -/
def constBlock (grammar : Grammar) : Parser (Node .expr) := do
  word "const"
  return .blockExpr .constant (← attributedBlock grammar)

/-- Read a bound of a range pattern, if there is one. -/
def rangeBound (grammar : Grammar) : Parser (Option (Node .expr)) := do
  if ← peek atPatternEnd then
    return none
  else if ← peek atLiteral then
    return some (.literalExpr (← literal))
  else if ← peek atExprPath then
    return some (.pathExpr (← qualifiablePath grammar true).toNode)
  else
    return some (← constBlock grammar)

/-- Read the dots of a range pattern, and tell whether they include the last value; three dots
are the older spelling of those that do. -/
def patternDots : Parser Bool := do
  if ← optionalMarks "..=" then
    return true
  else if ← optionalMarks "..." then
    return true
  else
    marks ".."
    return false

/-- Read the rest of a range pattern behind its lower bound. -/
def rangeBehind
    (grammar : Grammar)
    (start : Node .expr) :
    Parser (Node .pattern) := do
  let closed ← patternDots
  let stop ← rangeBound grammar
  require (!closed || stop.isSome)
  return .rangePattern (.present start) closed (.ofOption stop)

/-- Read a constant pattern or a range that begins with one. -/
def constPattern (grammar : Grammar) : Parser (Node .pattern) := do
  match ← rangeBound grammar with
  | none => refuse
  | some start =>
      if ← peek (atMarks "..") then
        rangeBehind grammar start
      else
        return .exprPattern start

/-- Read a range without a lower bound, or the pattern for all other elements. -/
def openRange (grammar : Grammar) : Parser (Node .pattern) := do
  let closed ←
    if ← optionalMarks "..=" then pure true
    else do
      marks ".."
      pure false
  match ← rangeBound grammar with
  | some stop => return .rangePattern .absent closed (.present stop)
  | none =>
      require (!closed)
      return .restPattern

/-- How many numbers thirty-two bits hold. -/
def wordSize : Nat := 4294967296

/-- The position that an integer spells: any integer without suffix that thirty-two bits hold. -/
def position? (text : List Char) : Option Nat :=
  match Literal.integer? text with
  | some value => if value < wordSize then some value else none
  | none => none

/-- Read a member of a structure: a name, or a position, which is kept in decimal digits. -/
def member : Parser String := do
  match ← get with
  | .literal text :: rest =>
      match position? text.toList with
      | some index =>
          set rest
          return toString index
      | none => refuse
  | _ => identifier

/-- Is the member a position? -/
def isPosition (name : String) : Bool :=
  isNumber name

/-- Read one field of a structure pattern behind its attributes. -/
def memberPattern
    (grammar : Grammar)
    (attributes : Node (.many .attribute)) :
    Parser (Node .fieldPattern) := do
  let start ← get
  let boxed ← optionalWord "box"
  let byReference ← optionalWord "ref"
  let mutable ← optionalWord "mut"
  let plain := !boxed && !byReference && !mutable
  let name ← if plain then member else identifier
  if (plain && (← peek (atMarks ":"))) || isPosition name then
    marks ":"
    return .memberPattern attributes name true (← alternatives grammar)
  else if boxed then
    return .memberPattern attributes name false (.verbatimPattern (← readSince start))
  else
    return .memberPattern attributes name false
      (.namePattern byReference mutable name .absent)

/-- The fields of a structure pattern, and the attributes of the dots behind them, if these
are there. -/
structure PatternFields where
  fields : Separated (Node .fieldPattern)
  rest : Option (Node (.many .attribute))

/-- Read the fields of a structure pattern up to the end of its braces. -/
def patternFields (grammar : Grammar) : Nat → Parser PatternFields
  | 0 => refuse
  | fuel + 1 => do
      if ← peek atEnd then
        return ⟨⟨[], false⟩, none⟩
      else
        let attributes ← outerAttributes grammar
        if ← optionalMarks ".." then
          return ⟨⟨[], false⟩, some attributes⟩
        else
          let head ← memberPattern grammar attributes
          if ← peek atEnd then
            return ⟨⟨[head], false⟩, none⟩
          else
            marks ","
            let tail ← patternFields grammar fuel
            return ⟨.cons head tail.fields, tail.rest⟩

/-- Read what follows a path that begins a pattern. -/
def patternFromPath (grammar : Grammar) : Parser (Node .pattern) := do
  let read ← qualifiablePath grammar true
  let bang ← peek atBang
  match read.plain?, bang with
  | some plain, true => return .invocationPattern (← invocationBehind plain)
  | _, _ =>
      if ← peek atBrace then
        let content ← inside .brace do
          patternFields grammar ((← get).length + 1)
        return .structPattern read.toNode (.ofList content.fields.elements)
          content.fields.trailing (.ofOption content.rest)
      else if ← peek atParenthesis then
        let list ← inside .parenthesis (commaList (alternatives grammar))
        return .tupleStructPattern read.toNode (.ofList list.elements) list.trailing
      else if ← peek (atMarks "..") then
        rangeBehind grammar (.pathExpr read.toNode)
      else
        return .exprPattern (.pathExpr read.toNode)

/-- Read a name that is bound, with what it is bound to. -/
def namePattern (grammar : Grammar) : Parser (Node .pattern) := do
  let byReference ← optionalWord "ref"
  let mutable ← optionalWord "mut"
  let name ← if ← peek (atWord "self") then anyWord else identifier
  let subpattern ←
    if ← optionalMarks "@" then some <$> grammar.pattern else pure none
  return .namePattern byReference mutable name (.ofOption subpattern)

/-- Is the pattern the one for all other elements? -/
def isRest : Node .pattern → Bool
  | .restPattern => true
  | _ => false

/-- Read a tuple pattern or a pattern in parentheses. -/
def parenthesizedPattern (grammar : Grammar) : Parser (Node .pattern) := do
  let list ← inside .parenthesis (commaList (alternatives grammar))
  match list.elements, list.trailing with
  | [single], false =>
      if isRest single then return .tuplePattern (.cons single .nil) false
      else return .parenthesizedPattern single
  | _, _ => return .tuplePattern (.ofList list.elements) list.trailing

/-- Is the pattern a range that lacks a bound? -/
def isOpenRange : Node .pattern → Bool
  | .rangePattern .absent _ _ => true
  | .rangePattern _ _ .absent => true
  | _ => false

/-- Read a slice pattern. A range without both bounds needs parentheses in it. -/
def slicePattern (grammar : Grammar) : Parser (Node .pattern) := do
  let list ← inside .bracket (commaList (alternatives grammar))
  require (!list.elements.any isOpenRange)
  return .slicePattern (.ofList list.elements) list.trailing

/-- Does a path rather than a bound name begin here? -/
def atPatternPath : Test := fun tokens =>
  (atIdentifier tokens
      && second
        (fun ahead =>
          atMarks "::" ahead || atMarks "!" ahead || atBrace ahead || atParenthesis ahead
            || atMarks ".." ahead)
        tokens)
    || (atWord "self" tokens && second (atMarks "::") tokens)
    || atMarks "::" tokens || atMarks "<" tokens || atWord "Self" tokens
    || atWord "super" tokens || atWord "crate" tokens

/-- Read a pattern without alternatives at its top. -/
def readPattern (grammar : Grammar) : Parser (Node .pattern) := do
  let ahead ← get
  if atPatternPath ahead then patternFromPath grammar
  else if atWord "_" ahead then do
    word "_"
    return .wildcardPattern
  else if atWord "box" ahead then do
    word "box"
    let _ ← grammar.pattern
    return .verbatimPattern (← readSince ahead)
  else if atMarks "-" ahead || atLiteral ahead || atWord "const" ahead then
    constPattern grammar
  else if atWord "ref" ahead || atWord "mut" ahead || atWord "self" ahead
      || atIdentifier ahead then
    namePattern grammar
  else if atMarks "&" ahead then do
    marks "&"
    let mutable ← optionalWord "mut"
    return .referencePattern mutable (← grammar.pattern)
  else if atParenthesis ahead then parenthesizedPattern grammar
  else if atBracket ahead then slicePattern grammar
  else if atMarks ".." ahead && !atMarks "..." ahead then openRange grammar
  else refuse

end Scaffold.Source.Grammar
