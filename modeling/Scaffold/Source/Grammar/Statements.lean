import Scaffold.Source.Grammar.Items

/-!
Contract: the grammar of the statements of a block.

Owns:
- what may stand as a statement, and when it needs a semicolon behind it;
- the statements of a block, up to its end.
-/

namespace Scaffold.Source.Grammar

open Source.Parser

/-- Put attributes in front of the leftmost operand, through operators and casts. -/
def attributeLeftmost (attributes : Node (.many .attribute)) : {c : Category} → Node c → Node c
  | _, .assignExpr place value => .assignExpr (attributeLeftmost attributes place) value
  | _, .binaryExpr left operator right =>
      .binaryExpr (attributeLeftmost attributes left) operator right
  | _, .castExpr expr type => .castExpr (attributeLeftmost attributes expr) type
  | .expr, expr => expr.withAttributes attributes
  | _, node => node

/-- Read the binding of a pattern, behind its attributes. The alternative for a value that does
not match needs the value to end in something other than a brace. -/
def letStatement
    (grammar : Grammar)
    (attributes : Node (.many .attribute)) :
    Parser (Node .statement) := do
  word "let"
  let bare ← grammar.pattern
  let pattern ←
    if ← optionalMarks ":" then do
      pure (.typedPattern bare (← grammar.type true))
    else pure bare
  if ← optionalMarks "=" then
    let start ← get
    let value ← grammar.expr true
    let read ← readSince start
    let endsInBrace := read.getLast? == some (.closing .brace)
    let otherwise ←
      if !endsInBrace && (← peek (atWord "else")) then do
        word "else"
        some <$> plainBlock grammar
      else pure none
    marks ";"
    return .letStatement attributes pattern (.present value) (.ofOption otherwise)
  else
    marks ";"
    return .letStatement attributes pattern .absent .absent

/-- Does an item begin here, rather than an expression? -/
def atItem : Test := fun tokens =>
  atWord "pub" tokens
    || (atWord "crate" tokens && !second (atMarks "::") tokens)
    || atWord "extern" tokens
    || atWord "use" tokens
    || (atWord "static" tokens
      && (second (atWord "mut") tokens || second atIdentifier tokens))
    || (atWord "const" tokens
      && !(second atBrace tokens || second (atWord "static") tokens
        || (second (atWord "async") tokens
          && !(third (atWord "unsafe") tokens || third (atWord "extern") tokens
            || third (atWord "fn") tokens))
        || second (atWord "move") tokens || second (atMarks "|") tokens))
    || (atWord "unsafe" tokens && !second atBrace tokens)
    || (atWord "async" tokens
      && (second (atWord "unsafe") tokens || second (atWord "extern") tokens
        || second (atWord "fn") tokens))
    || atWord "fn" tokens || atWord "mod" tokens || atWord "type" tokens
    || atWord "struct" tokens || atWord "enum" tokens
    || (atWord "union" tokens && second atIdentifier tokens)
    || atAutoTrait tokens || atWord "trait" tokens
    || (atWord "default" tokens
      && (second (atWord "unsafe") tokens || second (atWord "impl") tokens))
    || atWord "impl" tokens || atWord "macro" tokens

/-- Read an expression as a statement, behind its attributes, with the semicolon behind it. A
macro that ends the statement is a statement of its own form. -/
def exprStatement
    (grammar : Grammar)
    (attributes : Node (.many .attribute)) :
    Parser (Node .statement) := do
  let bare ← statementExpr grammar
  let expr := attributeLeftmost attributes bare
  let semicolon ← optionalMarks ";"
  let (outer, stripped) := expr.splitAttributes
  match stripped with
  | .invocationExpr invocation =>
      if semicolon || invocation.delimiter == .brace then
        return .invocationStatement outer invocation semicolon
      else
        return .exprStatement expr semicolon
  | _ => return .exprStatement expr semicolon

/-- What the tokens ahead are when they begin with the path of a macro and its bang. -/
inductive MacroAhead where
  | none
  | item
  | statement (path : PlainPath) (behind : List Token)

/-- Is a macro ahead that is an item, since a name stands in front of its arguments, or one
that is a statement, since its arguments are in braces and nothing is applied to it? -/
def macroAhead (tokens : List Token) : MacroAhead :=
  match plainPath tokens with
  | some (path, behind) =>
      if !atMarks "!" behind then .none
      else if second atIdentifier behind || second (atWord "try") behind then .item
      else if second atBrace behind
          && !((third (atMarks ".") behind && !third (atMarks "..") behind)
            || third (atMarks "?") behind) then
        .statement path behind
      else .none
  | none => .none

/-- Read one statement. -/
def statement (grammar : Grammar) : Parser (Node .statement) := do
  let start ← get
  let attributes ← outerAttributes grammar
  let ahead ← get
  match macroAhead ahead with
  | .statement path behind =>
      set behind
      let invocation ← invocationBehind path
      return .invocationStatement attributes invocation (← optionalMarks ";")
  | .item => return .itemStatement (← itemBehind grammar start attributes)
  | .none =>
      if atWord "let" ahead then letStatement grammar attributes
      else if atItem ahead then
        return .itemStatement (← itemBehind grammar start attributes)
      else exprStatement grammar attributes

/-- Must a semicolon follow the statement, if more follows? -/
def needsSemicolon : Node .statement → Bool
  | .exprStatement expr false =>
      match expr.splitAttributes.2 with
      | .invocationExpr invocation => invocation.delimiter != .brace
      | stripped => !isBlockLike stripped
  | .invocationStatement _ invocation false => invocation.delimiter != .brace
  | _ => false

/-- Read the statements up to the end of a block. -/
def statementsFrom (grammar : Grammar) : Nat → Parser (List (Node .statement))
  | 0 => refuse
  | fuel + 1 => do
      if ← optionalMarks ";" then
        return .emptyStatement :: (← statementsFrom grammar fuel)
      else if ← peek atEnd then
        return []
      else
        let head ← statement grammar
        let ends ← peek atEnd
        require (ends || !needsSemicolon head)
        return head :: (← statementsFrom grammar fuel)

/-- Read the statements up to the end of a block. -/
def readStatements (grammar : Grammar) : Parser (Node (.many .statement)) := do
  return .ofList (← statementsFrom grammar ((← get).length + 1))

end Scaffold.Source.Grammar
