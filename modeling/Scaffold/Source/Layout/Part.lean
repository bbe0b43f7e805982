import Scaffold.Source.Layout.Arguments
import Scaffold.Source.Tree

/-!
Contract: the layout of the parts of declarations that hold no trees, and of clauses.

Owns:
- names, paths, visibilities, macro invocations and heads;
- attributes, documentation among them;
- clauses of conditions, the bodies of declarations and blocks.
-/

namespace Scaffold.Source

open Layout

/-! ## Heads -/

/-- The text of a plain path. -/
def PlainPath.text (path : PlainPath) : String :=
  (if path.leading then "::" else "") ++ "::".intercalate path.names

/-- A visibility, with a blank behind it. The word in front of a path is there unless the path
is that of the crate, of the module or of the one around it. -/
def Visibility.layout : Visibility → List Piece
  | .inherited => []
  | .everywhere => word "pub "
  | .within _ path =>
      let isNear :=
        !path.leading && [["self"], ["super"], ["crate"]].contains path.names
      word "pub(" ++ wordIf (!isNear) "in " ++ word path.text ++ word ") "

/-- A macro invocation; `name` is what it declares. -/
def Invocation.layout (invocation : Invocation) (name : Option String) : List Piece :=
  word invocation.path.text ++ word "!"
    ++ (match name with
        | some text => blank ++ word text
        | none => [])
    ++ macroArguments invocation.delimiter invocation.body

/-- A macro invocation that is a statement or declaration. -/
def Invocation.statementLayout
    (invocation : Invocation)
    (name : Option String) :
    List Piece :=
  invocation.layout name ++ wordIf (invocation.delimiter != .brace) ";"

/-- A calling convention, with a blank behind it. -/
def Convention.layout : Option Convention → List Piece
  | none => []
  | some .standard => word "extern "
  | some (.named text) => word "extern " ++ word text ++ blank

/-- The text of a prefix operator. -/
def PrefixOperator.text : PrefixOperator → String
  | .dereference => "*"
  | .not => "!"
  | .negate => "-"
  | .borrow => "&"
  | .borrowMutable => "&mut "
  | .addressConstant => "&raw const "
  | .addressMutable => "&raw mut "

/-- A label in front of a loop or block. -/
def labelLayout : Option String → List Piece
  | some name => word "'" ++ word name ++ word ": "
  | none => []

/-- A label behind a jump. -/
def targetLayout : Option String → List Piece
  | some name => blank ++ word "'" ++ word name
  | none => []

/-- What stands in front of the brace of a block that is an expression. -/
def BlockHead.layout : BlockHead → List Piece
  | .plain name => labelLayout name
  | .asynchronous moves => word "async " ++ wordIf moves "move "
  | .constant => word "const "
  | .unchecked => word "unsafe "
  | .attempt => word "try "
  | .loop name => labelLayout name ++ word "loop "

/-- The word of a jump, and its label. -/
def Jump.layout : Jump → List Piece
  | .exit name => word "break" ++ targetLayout name
  | .result => word "return"
  | .emission => word "yield"

/-- What stands in front of the parameters of a closure. -/
def ClosureHead.layout (head : ClosureHead) : List Piece :=
  wordIf head.isConst "const " ++ wordIf head.isStatic "static "
    ++ wordIf head.isAsync "async " ++ wordIf head.moves "move "

/-- What stands in front of the name of a function. -/
def FunctionHead.layout (head : FunctionHead) : List Piece :=
  wordIf head.isConst "const " ++ wordIf head.isAsync "async "
    ++ wordIf head.isUnchecked "unsafe " ++ Convention.layout head.convention ++ word "fn "

namespace Layout

/-- A lifetime. -/
def lifetime (name : String) : List Piece :=
  word "'" ++ word name

/-! ## Attributes -/

/-- A text without the blanks at its end. -/
def withoutTrailingBlanks (text : List Char) : List Char :=
  (text.reverse.dropWhile (· == ' ')).reverse

/-- A text without the blanks at the ends of its lines, those of its last line apart. `line` is
the line read so far, from its end. -/
def withoutLineEndBlanks
    (line : List Char) :
    List Char → List Char
  | [] => line.reverse
  | '\n' :: rest =>
      (line.dropWhile (· == ' ')).reverse ++ '\n' :: withoutLineEndBlanks [] rest
  | char :: rest => withoutLineEndBlanks (char :: line) rest

/-- Is a text balanced in the delimiters of block comments? -/
def isBalancedComment (depth : Nat) : List Char → Bool
  | [] => depth == 0
  | '/' :: '*' :: rest => isBalancedComment (depth + 1) rest
  | '*' :: '/' :: rest => depth != 0 && isBalancedComment (depth - 1) rest
  | _ :: rest => isBalancedComment depth rest

/-- May a text be written between the delimiters of a block comment? -/
def fitsBlockComment (text : List Char) : Bool :=
  isBalancedComment 0 text && text.getLast? != some '/'

/-- Does the text begin with one of the characters? -/
def beginsWith (chars : List Char) : List Char → Bool
  | first :: _ => chars.contains first
  | [] => false

/-- A comment on one line. -/
def lineComment (lead : String) (text : List Char) : List Piece :=
  word lead ++ word (String.ofList (withoutTrailingBlanks text)) ++ newline

/-- A comment between delimiters. -/
def blockComment (lead : String) (text : List Char) : List Piece :=
  word lead ++ word (String.ofList (withoutLineEndBlanks [] text)) ++ word "*/" ++ newline

/-- The comment that documents what a text says, if there is one that says it. A text that
begins with a mark would make another sort of comment. -/
def documentation? (inner : Bool) (text : List Char) : Option (List Piece) :=
  if !text.contains '\n' && (inner || !beginsWith ['/'] text) then
    some (lineComment (if inner then "//!" else "///") text)
  else if fitsBlockComment text && (inner || !beginsWith ['*', '/'] text) then
    some (blockComment (if inner then "/*!" else "/**") text)
  else none

/-- The comment that says a text and documents nothing, if there is one. -/
def comment? (text : List Char) : Option (List Piece) :=
  if !text.contains '\n' then some (lineComment "//" text)
  else if fitsBlockComment text && !beginsWith ['*', '!'] text then
    some (blockComment "/*" text)
  else none

/-- An attribute around what it says. -/
def attributeRow (inner : Bool) (content : List Piece) : List Piece :=
  word (if inner then "#!" else "#") ++ word "[" ++ content ++ word "]" ++ space

/-! ## Clauses -/

/-- The conditions of a declaration on lines of their own, with `lastEnd` behind the last one. -/
def conditionLines
    (lastEnd : List Piece)
    (conditions : List (List Piece)) :
    List Piece :=
  pulledBack newline ++ word "where" ++ newline
    ++ followed (fun isLast => if isLast then lastEnd else word "," ++ newline) conditions

/-- The conditions in front of the brace of a body; a blank where there are none. -/
def conditionsBeforeBody (conditions : List (List Piece)) : List Piece :=
  if conditions.isEmpty then blank
  else conditionLines (word "," ++ pulledBack newline) conditions

/-- The conditions at the end of a declaration without body, with its semicolon. -/
def conditionsAtEnd (conditions : List (List Piece)) : List Piece :=
  if conditions.isEmpty then word ";" else conditionLines (word ";") conditions

/-- The conditions on the line of a declaration, with `lastEnd` behind the last one. -/
def conditionRow
    (lastEnd : List Piece)
    (conditions : List (List Piece)) :
    List Piece :=
  pulledBack space ++ word "where" ++ space
    ++ followed (fun isLast => if isLast then lastEnd else spacedComma false) conditions

/-- The conditions in front of what a type stands for; a blank where there are none. -/
def conditionsBeforeType (conditions : List (List Piece)) : List Piece :=
  if conditions.isEmpty then blank
  else conditionRow (pulledBack (spacedComma true)) conditions

/-- The conditions at the end of the declaration of a type, with its semicolon. -/
def conditionsAfterType (conditions : List (List Piece)) : List Piece :=
  if conditions.isEmpty then word ";" else conditionRow (word ";") conditions

/-- The lines between the braces of a body. -/
def bodyLines (rows : List Piece) : List Piece :=
  pulledBack (newlineUnlessLast ++ rows)

/-- A declaration with a body in braces. -/
def declaration (head body : List Piece) : List Piece :=
  deeper (head ++ word "\x7b" ++ bodyLines body) ++ word "\x7d" ++ newline

/-- Members that each end with a comma and a line. -/
def memberLines (rows : List (List Piece)) : List Piece :=
  rows.flatMap fun row => row ++ word "," ++ newline

/-- A body in braces in a box of its own. -/
def bracedLines (rows : List Piece) : List Piece :=
  word "\x7b" ++ joint ++ deeper (bodyLines rows) ++ word "\x7d"

/-- A value between braces that are put around it. -/
def bracedValue (row : List Piece) : List Piece :=
  deeper (pulledBack (word "\x7b" ++ space ++ filling 0 row ++ space) ++ word "\x7d")

/-- A value in a box, with braces around it as soon as it needs a line of its own. One that is
no statement gets parentheses. `endMark` stands behind the closing one, and `unbrokenMark`
where the value stays on its line. -/
def wrappedValue
    (isStatement addsSemicolon : Bool)
    (endMark : String)
    (unbrokenMark : Option Char)
    (row : List Piece) :
    List Piece :=
  deeper
    ([.gap { closingMark := some (if isStatement then '\x7b' else '(') }] ++ row
      ++ [.gap {
          offset := -indentWidth
          closingMark := if isStatement && addsSemicolon then some ';' else none
          openingText := if isStatement then "\x7d" else ")" ++ endMark
          unbrokenMark }])

end Layout

end Scaffold.Source
