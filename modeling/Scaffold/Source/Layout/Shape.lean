import Scaffold.Source.Literal
import Scaffold.Source.Tree

/-!
Contract: the shapes of trees that decide their layout.

Owns:
- expressions that stay on the line of what they belong to;
- expressions that end as statements or arms do, with or without a mark;
- trees that a reader takes for a statement of its own.

Attributes in front of an expression are looked through, except where the expression has to
begin on the line of what comes before it.
-/

namespace Scaffold.Source.Layout

/-- Is the expression a name that is no wider than one level of depth? -/
def isShortName : Node .expr → Bool
  | .pathExpr (.simplePath false (.cons (.pathSegment name .noArguments) .nil)) =>
      name.utf8ByteSize ≤ 4
  | _ => false

/-- Is the expression one name? -/
def isName : Node .expr → Bool
  | .pathExpr (.simplePath false (.cons (.pathSegment _ .noArguments) .nil)) => true
  | _ => false

/-- Does the expression hold its contents between delimiters of its own, which may end the line
that it begins on? -/
def isBlockLike : Node .expr → Bool
  | .arrayExpr _ _ => true
  | .blockExpr (.loop _) _ => false
  | .blockExpr _ _ => true
  | .closureExpr _ _ _ _ _ _ => true
  | .structExpr _ _ _ _ => true
  | .tupleExpr _ _ => true
  | _ => false

/-- Does the body of a closure stand behind its parameters without braces put around it? -/
def isPlainBody : Node .expr → Bool
  | .matchExpr _ _ _ => true
  | .callExpr _ _ _ => true
  | body => isBlockLike body

/-- Is the expression a block without a head or label? -/
def isPlainBlock : Node .expr → Bool
  | .blockExpr (.plain none) _ => true
  | _ => false

/-- Does an arm with this body need a comma? -/
def requiresComma : Node .expr → Bool
  | .attributedExpr _ expr => bare expr
  | expr => bare expr
where
  /-- The answer for an expression without attributes. -/
  bare : Node .expr → Bool
    | .blockExpr (.asynchronous _) _ => true
    | .blockExpr _ _ => false
    | .ifExpr _ _ _ => false
    | .matchExpr _ _ _ => false
    | .whileExpr _ _ _ => false
    | .forExpr _ _ _ _ => false
    | _ => true

/-- Does the expression need a mark behind it where it is a statement? -/
def requiresSemicolon : Node .expr → Bool
  | .invocationExpr invocation => invocation.delimiter != .brace
  | expr => requiresComma expr

/-- Does the expression get a semicolon as the last statement of a block? It leaves the block,
or is of no use as a value. -/
def addsSemicolon : Node .expr → Bool
  | .attributedExpr _ expr => bare expr
  | expr => bare expr
where
  /-- The answer for an expression without attributes. -/
  bare : Node .expr → Bool
    | .assignExpr _ _ => true
    | .jumpExpr _ _ => true
    | .continueExpr _ => true
    | .binaryExpr _ operator _ =>
        ["+=", "-=", "*=", "/=", "%=", "^=", "&=", "|=", "<<=", ">>="].contains operator
    | _ => false

/-- Is the expression complete as a statement without a mark behind it? A conditional is where
it has no alternative; no node but an expression is. -/
def dropsSemicolon : {c : Category} → Node c → Bool
  | _, .absent => true
  | _, .present node => dropsSemicolon node
  | _, .attributedExpr _ expr => dropsSemicolon expr
  | _, .forExpr _ _ _ _ => true
  | _, .whileExpr _ _ _ => true
  | _, .ifExpr _ _ otherwise => dropsSemicolon otherwise
  | _, _ => false

/-- Does a brace behind the expression need a line of its own once the expression is broken?
It does behind a row of operators or members. -/
def wrapsBeforeBrace : {c : Category} → Node c → Bool
  | _, .present node => wrapsBeforeBrace node
  | _, .attributedExpr _ expr => wrapsBeforeBrace expr
  | _, .assignExpr _ _ => true
  | _, .awaitExpr _ => true
  | _, .binaryExpr _ _ _ => true
  | _, .castExpr _ _ => true
  | _, .fieldExpr _ _ => true
  | _, .indexExpr _ _ => true
  | _, .methodExpr _ _ _ _ _ => true
  | _, .jumpExpr _ value => wrapsBeforeBrace value
  | _, .callExpr callee _ _ => wrapsBeforeBrace callee
  | _, .letExpr _ value => wrapsBeforeBrace value
  | _, .parenthesizedExpr expr => wrapsBeforeBrace expr
  | _, .rangeExpr _ _ stop => wrapsBeforeBrace stop
  | _, .prefixExpr _ expr => wrapsBeforeBrace expr
  | _, .tryExpr expr => wrapsBeforeBrace expr
  | _, _ => false

/-- Is the expression one statement as it stands? One that begins with an operand which is a
statement of its own is not, nor is the test of a pattern. -/
def isStatement : {c : Category} → Node c → Bool
  | _, .absent => true
  | _, .present node => requiresMark node && isStatement node
  | _, .attributedExpr _ expr => isStatement expr
  | _, .assignExpr target _ => requiresSemicolon target && isStatement target
  | _, .binaryExpr left _ _ => requiresSemicolon left && isStatement left
  | _, .castExpr expr _ => requiresSemicolon expr && isStatement expr
  | _, .indexExpr expr _ => requiresSemicolon expr && isStatement expr
  | _, .callExpr callee _ _ => requiresSemicolon callee && isStatement callee
  | _, .rangeExpr start _ _ => isStatement start
  | _, .awaitExpr expr => isStatement expr
  | _, .fieldExpr expr _ => isStatement expr
  | _, .methodExpr receiver _ _ _ _ => isStatement receiver
  | _, .tryExpr expr => isStatement expr
  | _, .letExpr _ _ => false
  | _, _ => true
where
  /-- Does the node need a mark behind it where it is a statement? -/
  requiresMark : {c : Category} → Node c → Bool
    | .expr, expr => requiresSemicolon expr
    | _, _ => true

/-- Is every pattern of a list a literal or a wildcard? -/
def areSimplePatterns (patterns : Node (.many .pattern)) : Bool :=
  patterns.toList.all fun
    | .exprPattern (.literalExpr _) => true
    | .wildcardPattern => true
    | _ => false

/-- Is the text of a literal that of a number without a fraction, a character, a byte or a truth
value? -/
def isSmallLiteral (text : String) : Bool :=
  match text.toList with
  | 'b' :: '\'' :: _ => true
  | '\'' :: _ => true
  | first :: rest =>
      text = "true" || text = "false"
        || (Text.isAsciiDigit first && (Literal.afterFloatDigits (first :: rest)).isNone)
  | [] => false

/-- Is every expression of a list such a literal? -/
def areSmallLiterals (elements : Node (.many .expr)) : Bool :=
  elements.toList.all fun element =>
    match element.splitAttributes.2 with
    | .literalExpr text => isSmallLiteral text
    | _ => false

/-- Does the last of the parameters stand for any number of arguments? -/
def takesMore : {c : Category} → Node c → Bool
  | _, .cons head .nil => takesMore head
  | _, .cons _ tail => takesMore tail
  | _, .variadicParameter _ _ => true
  | _, .inputVariadic _ _ => true
  | _, _ => false

/-- Is the list of statements one value without a mark behind it? -/
def isSoleValue : Node (.many .statement) → Bool
  | .cons (.exprStatement _ false) .nil => true
  | _ => false

/-- The expression that is left of the body of an arm: a plain block that holds nothing but a
value is that value. -/
def armBody : {c : Category} → Node c → Node c
  | _, .blockExpr (.plain none) (.blockBody .nil (.cons (.exprStatement expr false) .nil)) =>
      armBody expr
  | _, node => node

/-- Is the expression the empty tuple? -/
def isUnit : Node .expr → Bool
  | .tupleExpr .nil _ => true
  | _ => false

/-- Is a group of imports nothing but one tree, which is not the module itself? -/
def isSoleImport : Node (.many .useTree) → Bool
  | .cons (.useName "self") .nil => false
  | .cons (.useRename "self" _) .nil => false
  | .cons _ .nil => true
  | _ => false

/-- Does a tree of imports end in a group? -/
def endsInGroup : {c : Category} → Node c → Bool
  | _, .usePath _ tree => endsInGroup tree
  | _, .useGroup _ _ => true
  | _, _ => false

end Scaffold.Source.Layout
