import Scaffold.Source.Layout.Page
import Scaffold.Source.Layout.Part
import Scaffold.Source.Layout.Shape
import Scaffold.Source.Reading
import Scaffold.Source.Tree.Attributes

/-!
Contract: the layout of syntax trees.

Owns:
- the row of pieces of every node;
- the text of a file.

Where a node stands decides part of its layout. An expression is told whether it begins a line
and whether it is the front of a chain of members, a path whether it is a value, and a block
whether it may stand on one line. Such a node's layout is a function of its place, so that all
of them are one recursion on the tree.
-/

namespace Scaffold.Source

open Layout

namespace Layout

/-- What a path stands for: a value, the pattern of a structure, a type, or a name
without arguments. -/
inductive PathSort where
  | value
  | pattern
  | type
  | name
  deriving DecidableEq, Repr

/-- Do generic arguments need a colon pair in front? -/
def PathSort.isAmongExprs : PathSort → Bool
  | .value => true
  | .pattern => true
  | .type => false
  | .name => false

/-- Where an expression stands: inside a line, at the beginning of one, at the front of a chain
of members, as the body of an arm, as the body of an arm that keeps its braces, or behind the
condition that leads to it otherwise. -/
inductive Place where
  | inside
  | lineStart
  | chained (lineStart : Bool)
  | body
  | bracedBody
  | alternative
  deriving DecidableEq, Repr

/-- Does the expression begin a line? -/
def Place.startsLine : Place → Bool
  | .inside => false
  | .lineStart => true
  | .chained atStart => atStart
  | .body => true
  | .bracedBody => true
  | .alternative => false

/-- The place of an operand whose suffix opens no box. -/
def Place.ofOperand : Place → Place
  | .chained atStart => .chained atStart
  | .lineStart => .lineStart
  | .body => .lineStart
  | .bracedBody => .lineStart
  | .inside => .inside
  | .alternative => .inside

/-- The place of what is called. It does not begin a line, even where the call does. -/
def Place.ofCallee : Place → Place
  | .chained _ => .chained false
  | _ => .inside

/-- The layout of an expression that is no chain, from its row inside a line. -/
def Place.simple
    (place : Place)
    (row : List Piece) :
    List Piece :=
  match place with
  | .chained _ => shallower row
  | _ => row

/-- The layout of a chain of members, from its links. -/
def Place.chain
    (place : Place)
    (links : Bool → List Piece) :
    List Piece :=
  match place with
  | .chained atStart => links atStart
  | _ => deeper (links place.startsLine)

/-- How a block is laid out: on one line where it fits, as lines without their braces, or as the
only value that it holds. -/
inductive BlockStyle where
  | small
  | lines
  | value (place : Place)
  deriving DecidableEq, Repr

/-- How a statement is laid out: as a line, or as the value that it is. -/
inductive StatementStyle where
  | line
  | value (place : Place)
  deriving DecidableEq, Repr

/-- The layout of generics: their list, and the conditions behind what they parametrize. -/
structure GenericParts where
  parameters : List Piece
  conditions : List (List Piece)

/-- The layout of a signature, and the conditions behind it. -/
structure SignatureParts where
  head : List Piece
  conditions : List (List Piece)

/-- What the layout of a node of each category is. -/
abbrev Laid : Category → Type
  | .many c => List (Laid c)
  | .maybe c => Option (Laid c)
  | .path => PathSort → List Piece
  | .segment => PathSort → List Piece
  | .segmentArguments => PathSort → List Piece
  | .generics => GenericParts
  | .expr => Place → List Piece
  | .block => BlockStyle → List Piece
  | .statement => StatementStyle → List Piece
  | .signature => SignatureParts
  | .fields => List (List Piece)
  | .attribute | .argument | .bound | .binder | .type | .bareParameter | .genericParameter
  | .predicate | .arm | .fieldValue | .pattern | .fieldPattern | .parameter | .field
  | .variant | .item | .useTree => List Piece

/-- Segments of a path with colons between them. -/
def joinedSegments
    (sort : PathSort)
    (segments : List (PathSort → List Piece)) :
    List Piece :=
  separatedBy (word "::") (segments.map fun segment => segment sort)

/-- A gap in front of a member, unless the line has just begun with a short name. `row` is the
layout of the owner; a number that ends in a dot is kept apart from the dot of the member. -/
def memberGap (lineStart : Bool) (owner : Node .expr) (row : List Piece) : List Piece :=
  if lineStart && isShortName owner then [] else if endsInDot row then space else seam

/-- The arguments of a call, without parentheses. One alone that holds its contents between
delimiters of its own goes on with the line. -/
def argumentRow
    (arguments : Node (.many .expr))
    (rows : List (Place → List Piece)) :
    List Piece :=
  match arguments.toList with
  | [argument] =>
      if isBlockLike argument then rows.flatMap fun row => row .inside
      else boxedList (rows.map fun row => row .inside)
  | _ => boxedList (rows.map fun row => row .inside)

/-- A condition in front of the brace that it leads to. -/
def condition (expr : Node .expr) (row : List Piece) : List Piece :=
  column 0 (row ++ if wrapsBeforeBrace expr then space else blank)

/-- A value that stands for a generic constant: braces are put around what is no literal, name
or block. -/
def constantArgument (expr : Node .expr) (row : Place → List Piece) : List Piece :=
  let isBare :=
    isName expr || isPlainBlock expr
      || match expr with
        | .literalExpr _ => true
        | .blockExpr (.plain (some _)) _ => true
        | _ => false
  if isBare then row .inside else bracedValue (row .lineStart)

/-- Parameters between parentheses that are written already. Where the last one stands for any
number of arguments, no comma follows it. -/
def parameterRow (isOpen : Bool) (rows : List (List Piece)) : List Piece :=
  pulledBack
    (seam ++ followed (fun isLast => if isLast && isOpen then seam else comma isLast) rows)

/-- The return type of a function. -/
def outputRow (type : Option (List Piece)) : List Piece :=
  led (word " -> ") type

/-- The parameters of a closure up to where its body begins, and the body. -/
def closureRow
    (inputs : List (List Piece))
    (output : Option (List Piece))
    (body : Node .expr)
    (bodyRow : Place → List Piece) :
    List Piece :=
  let list :=
    match inputs with
    | [] => []
    | _ :: _ => seam ++ separatedBy (word "," ++ space) inputs
  match output with
  | none =>
      deeper (word "|" ++ list ++ word "|" ++ pulledBack space) ++ joint
        ++ (if isPlainBody body then bodyRow .inside
            else
              wrappedValue (isStatement body) (addsSemicolon body) "" none (bodyRow .inside))
  | some type =>
      deeper
          (word "|" ++ list ++ (if inputs.isEmpty then [] else pulledBack (comma true))
            ++ word "|")
        ++ word " -> " ++ type ++ blank ++ joint
        ++ (if isPlainBlock body then bodyRow .inside else bracedValue (bodyRow .lineStart))

/-- Imports between braces: one that ends in a group, as told by `groups`, ends its line. -/
def importList : List Bool → List (List Piece) → List Piece
  | _, [] => []
  | _, [last] => last
  | groups, row :: rest =>
      row ++ word "," ++ (if groups.headD false then newline else space)
        ++ importList groups.tail rest

/-- Is the block nothing but a value? -/
def isSoleBlock : Node .block → Bool
  | .blockBody .nil statements => isSoleValue statements
  | _ => false

/-- Is there nothing in the block? -/
def isEmptyBlock : Node .block → Bool
  | .blockBody inner statements => inner.isNil && statements.isNil
  | _ => false

/-- The body of an arm, from the expression that is left of it. -/
def armRow (body : Node .expr) (row : Place → List Piece) : List Piece :=
  let left := armBody body
  if isUnit left then word "\x7b" ++ joint ++ word "\x7d"
  else
    match left with
    | .blockExpr (.plain _) _ => row .body
    | .attributedExpr _ (.blockExpr (.plain _) _) => row .body
    | _ =>
        joint
          ++ wrappedValue (isStatement left) (addsSemicolon left) ","
            (if requiresComma left then some ',' else none) (row .body)

end Layout

/-- The row of pieces of a node. -/
def Node.layout : {c : Category} → Node c → Laid c
  | _, .nil => []
  | _, .cons head tail => head.layout :: tail.layout
  | _, .absent => none
  | _, .present node => some node.layout
  -- attributes
  | _, .pathAttribute inner path => attributeRow inner (word path.text)
  | _, .listAttribute inner path delimiter body =>
      attributeRow inner
        (word path.text ++ attributeArguments .mark (Token.group delimiter body))
  | _, .valueAttribute inner path value =>
      let textOf (name : String) :=
        Node.attributeText? name (.valueAttribute inner path value)
      let comment :=
        match textOf "doc", textOf "comment" with
        | some text, _ => documentation? inner text.toList
        | none, some text => comment? text.toList
        | none, none => none
      match comment with
      | some row => row
      | none => attributeRow inner (word path.text ++ word " = " ++ value.layout .inside)
  -- paths
  | _, .simplePath leading segments => fun sort =>
      wordIf leading "::" ++ joinedSegments sort segments.layout
  | _, .qualifiedPath owner trait segments => fun sort =>
      if sort = .pattern then
        (match trait.layout with
            | some path => path .value
            | none => [])
          ++ word "::" ++ joinedSegments .value segments.layout
      else
        word "<" ++ owner.layout
          ++ (match trait.layout with
              | some path => word " as " ++ path .type
              | none => [])
          ++ word ">::" ++ joinedSegments sort segments.layout
  | _, .pathSegment name arguments => fun sort => word name ++ arguments.layout sort
  | _, .noArguments => fun _ => []
  | _, .angleArguments _ arguments _ => fun sort =>
      let rows := arguments.lifetimesFirst arguments.layout
      if rows.isEmpty || sort = .name then []
      else wordIf sort.isAmongExprs "::" ++ word "<" ++ boxedList rows ++ word ">"
  | _, .callArguments inputs _ output => fun sort =>
      if sort = .name then []
      else
        deeper (pulledBack (word "(" ++ seam ++ commas inputs.layout) ++ word ")"
          ++ outputRow output.layout)
  | _, .lifetimeArgument name => lifetime name
  | _, .typeArgument type => type.layout
  | _, .constArgument value => constantArgument value value.layout
  | _, .typeBinding name arguments type =>
      word name ++ arguments.layout .type ++ word " = " ++ type.layout
  | _, .constBinding name arguments value =>
      word name ++ arguments.layout .type ++ word " = " ++ constantArgument value value.layout
  | _, .boundConstraint name arguments list _ =>
      word name ++ arguments.layout .type
        ++ filling indentWidth (bounds (word ": ") list.layout)
  -- bounds and generics
  | _, .traitBound parenthesized optional binder path =>
      wordIf parenthesized "(" ++ led [] binder.layout ++ wordIf optional "?"
        ++ path.layout .type ++ wordIf parenthesized ")"
  | _, .lifetimeBound name => lifetime name
  | _, .captureBound names _ =>
      word "use<" ++ separatedBy (word ", ") (names.map fun row => word (Token.textOf row))
        ++ word ">"
  | _, .verbatimBound tokens => word (Token.textOf tokens)
  | _, .forBinder parameters _ =>
      word "for<" ++ separatedBy (word ", ") parameters.layout ++ word "> "
  | _, .lifetimeParameter attributes name _ list _ =>
      attributes.layout.flatten ++ lifetime name
        ++ (if list.isEmpty then []
            else word ": " ++ separatedBy (word " + ") (list.map lifetime))
  | _, .typeParameter attributes name _ list _ default =>
      attributes.layout.flatten ++ word name
        ++ filling indentWidth
          (bounds (word ": ") list.layout
            ++ led (space ++ word "= ") default.layout)
  | _, .constParameter attributes name type default =>
      attributes.layout.flatten ++ word "const " ++ word name ++ word ": " ++ type.layout
        ++ (match default with
            | .present value => word " = " ++ constantArgument value value.layout
            | .absent => [])
  | _, .lifetimePredicate name list _ =>
      lifetime name ++ word ":" ++ filling indentWidth (bounds blank (list.map lifetime))
  | _, .typePredicate binder type list _ =>
      let rows := list.layout
      led [] binder.layout ++ type.layout ++ word ":"
        ++ filling (if rows.length = 1 then 0 else indentWidth) (bounds blank rows)
  | _, .genericList _ parameters _ conditions _ =>
      let rows := parameters.lifetimesFirst parameters.layout
      ⟨if rows.isEmpty then []
        else word "<" ++ column 0 (pulledBack (seam ++ commas rows)) ++ word ">",
        conditions.layout.getD []⟩
  -- types
  | _, .arrayType element length =>
      word "[" ++ element.layout ++ word "; " ++ length.layout .inside ++ word "]"
  | _, .functionType binder isUnchecked convention parameters _ output =>
      led [] binder.layout ++ wordIf isUnchecked "unsafe " ++ Convention.layout convention
        ++ word "fn("
        ++ deeper (parameterRow (takesMore parameters) parameters.layout)
        ++ word ")" ++ outputRow output.layout
  | _, .groupedType type => type.layout
  | _, .implType list _ => word "impl " ++ separatedBy (word " + ") list.layout
  | _, .inferredType => word "_"
  | _, .invocationType invocation => invocation.layout none
  | _, .neverType => word "!"
  | _, .parenthesizedType type => word "(" ++ type.layout ++ word ")"
  | _, .pathType path => path.layout .type
  | _, .pointerType mutable type =>
      word (if mutable then "*mut " else "*const ") ++ type.layout
  | _, .referenceType name mutable type =>
      word "&"
        ++ (match name with
            | some text => lifetime text ++ blank
            | none => [])
        ++ wordIf mutable "mut " ++ type.layout
  | _, .sliceType element => word "[" ++ element.layout ++ word "]"
  | _, .objectType _ list _ => word "dyn " ++ separatedBy (word " + ") list.layout
  | _, .tupleType types _ => tuple types.layout
  | _, .verbatimType tokens => word (Token.textOf tokens)
  | _, .inputParameter attributes name type =>
      attributes.layout.flatten
        ++ (match name with
            | some text => word text ++ word ": "
            | none => [])
        ++ type.layout
  | _, .inputVariadic attributes name =>
      attributes.layout.flatten
        ++ (match name with
            | some text => word text ++ word ": "
            | none => [])
        ++ word "..."
  -- expressions
  | _, .attributedExpr attributes expr => fun place =>
      match expr, place with
      | .blockExpr (.plain _) _, .body => expr.layout .bracedBody
      | .rangeExpr _ _ _, _ =>
          place.simple
            (attributes.layout.flatten ++ word "(" ++ expr.layout .inside ++ word ")")
      | _, _ => place.simple (attributes.layout.flatten ++ expr.layout place.ofOperand)
  | _, .arrayExpr list _ => fun place =>
      let rows := list.layout.map fun row => row .inside
      place.simple
        (if rows.isEmpty then word "[]"
          else if areSmallLiterals list then
            deeper
              (word "[" ++ seam ++ filling 0 (separatedBy (word "," ++ space) rows)
                ++ pulledBack (comma true) ++ word "]")
          else word "[" ++ boxedList rows ++ word "]")
  | _, .assignExpr target value => fun place =>
      place.simple
        (filling 0 (target.layout .inside ++ word " = " ++ joint ++ value.layout .inside))
  | _, .awaitExpr expr => fun place =>
      place.chain fun start =>
        let row := expr.layout (.chained start)
        row ++ memberGap start expr row ++ word ".await"
  | _, .binaryExpr left operator right => fun place =>
      place.simple
        (filling indentWidth
          (filling (-indentWidth) (left.layout .inside) ++ space ++ word operator ++ blank
            ++ right.layout .inside))
  | _, .blockExpr head block => fun place =>
      match head, place with
      | .plain none, .body =>
          if isSoleBlock block then block.layout (.value .body)
          else bracedLines (block.layout .lines)
      | .plain name, .body => labelLayout name ++ bracedLines (block.layout .lines)
      | .plain name, .bracedBody => labelLayout name ++ bracedLines (block.layout .lines)
      | .plain _, .alternative => block.layout .small
      | .loop _, _ =>
          place.simple
            (head.layout ++ word "\x7b" ++ deeper (bodyLines (block.layout .lines)) ++ word "\x7d")
      | _, _ => place.simple (head.layout ++ deeper (block.layout .small))
  | _, .callExpr callee arguments _ => fun place =>
      callee.layout place.ofCallee ++ word "(" ++ argumentRow arguments arguments.layout ++ word ")"
  | _, .castExpr expr type => fun place =>
      place.simple
        (filling indentWidth
          (filling (-indentWidth) (expr.layout .inside) ++ space ++ word "as " ++ type.layout))
  | _, .closureExpr binder head inputs _ output body => fun place =>
      place.simple
        (filling 0
          (led [] binder.layout ++ head.layout
            ++ closureRow inputs.layout output.layout body body.layout))
  | _, .continueExpr name => fun place => place.simple (word "continue" ++ targetLayout name)
  | _, .fieldExpr expr member => fun place =>
      place.chain fun start =>
        let row := expr.layout (.chained start)
        row ++ memberGap start expr row ++ word "." ++ word member
  | _, .forExpr name pattern source block => fun place =>
      place.simple
        (filling 0
          (labelLayout name ++ word "for " ++ pattern.layout ++ word " in " ++ joint
            ++ condition source (source.layout .inside) ++ bracedLines (block.layout .lines)))
  | _, .ifExpr test block otherwise => fun place =>
      let row :=
        word "if " ++ shallower (condition test (test.layout .inside))
          ++ (match otherwise.layout with
              | some alternative => block.layout .small ++ word " else " ++ alternative .alternative
              | none =>
                  if place = .alternative || isEmptyBlock block then block.layout .small
                  else
                    word "\x7b" ++ pulledBack (newline ++ block.layout .lines) ++ word "\x7d")
      match place with
      | .alternative => row
      | _ => place.simple (deeper row)
  | _, .indexExpr expr index => fun place =>
      expr.layout place.ofOperand ++ word "[" ++ index.layout .inside ++ word "]"
  | _, .inferredExpr => fun place => place.simple (word "_")
  | _, .jumpExpr jump value => fun place =>
      place.simple
        (jump.layout
          ++ (match value.layout with
              | some row => blank ++ row .inside
              | none => []))
  | _, .letExpr pattern value => fun place =>
      place.simple
        (word "let " ++ pattern.layout ++ word " = " ++ joint ++ value.layout .inside)
  | _, .literalExpr text => fun place => place.simple (word text)
  | _, .invocationExpr invocation => fun place => place.simple (invocation.layout none)
  | _, .matchExpr scrutinee inner arms => fun place =>
      place.simple
        (filling 0
          (word "match " ++ condition scrutinee (scrutinee.layout .inside)
            ++ bracedLines
              (inner.layout.flatten ++ arms.layout.flatMap fun row => row ++ newline)))
  | _, .methodExpr receiver method turbofish arguments _ => fun place =>
      let unindents :=
        match place with
        | .chained _ => false
        | _ => place.startsLine && isShortName receiver
      place.chain fun start =>
        let row := receiver.layout (.chained start)
        row ++ memberGap start receiver row ++ word "." ++ word method
          ++ turbofish.layout .value
          ++ column (if unindents then -indentWidth else 0)
            (word "(" ++ argumentRow arguments arguments.layout ++ word ")")
  | _, .parenthesizedExpr expr => fun place =>
      place.simple (word "(" ++ expr.layout .inside ++ word ")")
  | _, .pathExpr path => fun place => place.simple (path.layout .value)
  | _, .prefixExpr operator expr => fun place =>
      place.simple (word operator.text ++ expr.layout .inside)
  | _, .rangeExpr start closed stop => fun place =>
      place.simple
        ((match start.layout with
          | some row => row .inside
          | none => [])
          ++ word (if closed then "..=" else "..")
          ++ (match stop.layout with
              | some row => if closed then row .inside else behindDots (row .inside)
              | none => []))
  | _, .repeatExpr element length => fun place =>
      place.simple
        (word "[" ++ element.layout .inside ++ word "; " ++ length.layout .inside ++ word "]")
  | _, .structExpr path fields _ rest => fun place =>
      let rows := fields.layout
      let members :=
        match rest.layout with
        | some (some base) =>
            rows.flatMap (fun row => row ++ spacedComma false) ++ word ".."
              ++ behindDots (base .inside) ++ space
        | _ => followed spacedComma rows
      place.simple
        (deeper
            (broughtToBreak
              (filling (-indentWidth) (path.layout .value) ++ word " \x7b"
                ++ pulledBack (spaceUnlessLast ++ members)))
          ++ word "\x7d")
  | _, .tryExpr expr => fun place => expr.layout place.ofOperand ++ word "?"
  | _, .tupleExpr list _ => fun place =>
      place.simple (tuple (list.layout.map fun row => row .inside))
  | _, .whileExpr name test block => fun place =>
      place.simple
        (labelLayout name ++ word "while " ++ condition test (test.layout .inside)
          ++ bracedLines (block.layout .lines))
  | _, .verbatimExpr tokens => fun place => place.simple (word (Token.textOf tokens))
  | _, .matchArm attributes pattern guard body _ =>
      attributes.layout.flatten
        ++ filling 0
          (pattern.layout
            ++ (match guard.layout with
                | some row => word " if " ++ row .inside
                | none => [])
            ++ word " => " ++ armRow body body.layout)
  | _, .memberValue attributes member colon value =>
      attributes.layout.flatten ++ word member
        ++ (if colon then word ": " ++ filling 0 (value.layout .inside) else [])
  -- blocks
  | _, .blockBody inner statements => fun style =>
      let rows := statements.layout
      let lines := inner.layout.flatten ++ rows.flatMap fun row => row .line
      match style with
      | .lines => lines
      | .value place => rows.flatMap fun row => row (.value place)
      | .small =>
          word "\x7b"
            ++ (if inner.isNil && rows.isEmpty then []
                else if isSoleValue statements then
                  pulledBack
                    (space ++ inner.layout.flatten
                      ++ filling 0 (rows.flatMap fun row => row (.value .lineStart)) ++ space)
                else pulledBack (space ++ lines))
            ++ word "\x7d"
  | _, .letStatement attributes pattern value otherwise => fun _ =>
      let head := word "let " ++ pattern.layout
      attributes.layout.flatten
        ++ (match value.layout, otherwise.layout with
            | none, _ => filling 0 head
            | some row, none => filling 0 (head ++ word " = " ++ joint ++ row .inside)
            | some row, some block =>
                filling 0 (head ++ word " = " ++ joint ++ row .inside ++ space ++ word "else ")
                  ++ joint ++ deeper (block .small))
        ++ word ";" ++ newline
  | _, .itemStatement item => fun _ => item.layout
  | _, .exprStatement expr semicolon => fun style =>
      match style with
      | .value place => expr.layout place
      | .line =>
          let isMarked := if semicolon then !dropsSemicolon expr else addsSemicolon expr
          filling 0 (expr.layout .lineStart ++ wordIf isMarked ";") ++ newline
  | _, .invocationStatement attributes invocation semicolon => fun _ =>
      attributes.layout.flatten ++ invocation.layout none
        ++ wordIf (semicolon || invocation.delimiter != .brace) ";" ++ newline
  | _, .emptyStatement => fun _ => []
  -- patterns
  | _, .attributedPattern attributes pattern => attributes.layout.flatten ++ pattern.layout
  | _, .exprPattern expr => expr.layout .inside
  | _, .namePattern byReference mutable name subpattern =>
      wordIf byReference "ref " ++ wordIf mutable "mut " ++ word name
        ++ led (word " @ ") subpattern.layout
  | _, .invocationPattern invocation => invocation.layout none
  | _, .orPattern _ cases =>
      box (if areSimplePatterns cases then .filling else .column) 0
        (separatedBy (space ++ word "| ") cases.layout)
  | _, .parenthesizedPattern pattern => word "(" ++ pattern.layout ++ word ")"
  | _, .rangePattern start closed stop =>
      (match start.layout with
        | some row => row .inside
        | none => [])
        ++ word (if closed then "..=" else "..")
        ++ (match stop.layout with
            | some row => row .inside
            | none => [])
  | _, .referencePattern mutable pattern =>
      word "&" ++ wordIf mutable "mut " ++ pattern.layout
  | _, .restPattern => word ".."
  | _, .slicePattern patterns _ =>
      word "[" ++ commas patterns.layout ++ word "]"
  | _, .structPattern path fields _ rest =>
      let rows := fields.layout
      let members :=
        match rest.layout with
        | some attributes =>
            rows.flatMap (fun row => row ++ spacedComma false) ++ attributes.flatten
              ++ word ".." ++ space
        | none => followed spacedComma rows
      deeper (path.layout .pattern ++ word " \x7b" ++ pulledBack (spaceUnlessLast ++ members))
        ++ word "\x7d"
  | _, .tuplePattern patterns trailing =>
      word "("
        ++ (match patterns.layout with
            | [row] => deeper (pulledBack (seam ++ row ++ wordIf trailing "," ++ seam))
            | rows => boxedList rows)
        ++ word ")"
  | _, .tupleStructPattern path patterns _ =>
      path.layout .pattern ++ word "(" ++ boxedList patterns.layout ++ word ")"
  | _, .typedPattern pattern type => pattern.layout ++ word ": " ++ type.layout
  | _, .wildcardPattern => word "_"
  | _, .verbatimPattern tokens => word (Token.textOf tokens)
  | _, .memberPattern attributes member colon pattern =>
      attributes.layout.flatten ++ (if colon then word member ++ word ": " else [])
        ++ pattern.layout
  -- functions
  | _, .selfParameter attributes reference mutable type =>
      attributes.layout.flatten
        ++ (match reference with
            | some (some name) => word "&" ++ lifetime name ++ blank
            | some none => word "&"
            | none => [])
        ++ wordIf mutable "mut " ++ word "self" ++ led (word ": ") type.layout
  | _, .typedParameter attributes pattern type =>
      attributes.layout.flatten ++ pattern.layout ++ word ": " ++ type.layout
  | _, .variadicParameter attributes pattern =>
      attributes.layout.flatten
        ++ (match pattern.layout with
            | some row => row ++ word ": "
            | none => [])
        ++ word "..."
  | _, .functionSignature head name generics parameters _ output =>
      let parts := generics.layout
      ⟨head.layout ++ word name ++ parts.parameters ++ word "(" ++ joint
          ++ column 0 (parameterRow (takesMore parameters) parameters.layout) ++ word ")"
          ++ shallower (outputRow output.layout),
        parts.conditions⟩
  -- data
  | _, .namedField attributes visibility name type =>
      attributes.layout.flatten ++ visibility.layout ++ word name ++ word ": " ++ type.layout
  | _, .positionalField attributes visibility type =>
      attributes.layout.flatten ++ visibility.layout ++ type.layout
  | _, .namedFields fields _ => fields.layout
  | _, .positionalFields fields _ => fields.layout
  | _, .noFields => []
  | _, .enumVariant attributes name fields discriminant =>
      attributes.layout.flatten ++ word name
        ++ (match fields with
            | .namedFields _ _ =>
                word " \x7b" ++ deeper (pulledBack (space ++ followed spacedComma fields.layout))
                  ++ word "\x7d"
            | .positionalFields _ _ =>
                deeper (word "(" ++ pulledBack (seam ++ commas fields.layout) ++ word ")")
            | .noFields => [])
        ++ (match discriminant.layout with
            | some row => word " = " ++ row .inside
            | none => [])
  -- items
  | _, .constItem attributes visibility isDefault name type value =>
      attributes.layout.flatten
        ++ column 0
          (visibility.layout ++ wordIf isDefault "default " ++ word "const " ++ word name
            ++ word ": " ++ type.layout
            ++ (match value.layout with
                | some row => word " = " ++ joint ++ row .inside
                | none => [])
            ++ word ";")
        ++ newline
  | _, .enumItem attributes visibility name generics variants _ =>
      let parts := generics.layout
      attributes.layout.flatten
        ++ declaration
          (visibility.layout ++ word "enum " ++ word name ++ parts.parameters
            ++ conditionsBeforeBody parts.conditions)
          (memberLines variants.layout)
  | _, .crateItem attributes visibility name rename =>
      attributes.layout.flatten ++ visibility.layout ++ word "extern crate " ++ word name
        ++ (match rename with
            | some text => word " as " ++ word text
            | none => [])
        ++ word ";" ++ newline
  | _, .functionItem attributes visibility isDefault signature body =>
      let parts := signature.layout
      let head := visibility.layout ++ wordIf isDefault "default " ++ parts.head
      attributes.layout.flatten
        ++ (match body.layout with
            | some block =>
                declaration (head ++ conditionsBeforeBody parts.conditions) (block .lines)
            | none => deeper (head ++ conditionsAtEnd parts.conditions) ++ newline)
  | _, .foreignItem attributes isUnchecked convention inner items =>
      attributes.layout.flatten
        ++ declaration (wordIf isUnchecked "unsafe " ++ Convention.layout (some convention))
          (inner.layout.flatten ++ items.layout.flatten)
  | _, .implItem attributes isDefault isUnchecked generics negative trait owner inner items =>
      let parts := generics.layout
      attributes.layout.flatten
        ++ declaration
          (filling (-indentWidth)
              (deeper
                  (wordIf isDefault "default " ++ wordIf isUnchecked "unsafe " ++ word "impl"
                    ++ parts.parameters)
                ++ blank
                ++ (match trait.layout with
                    | some path => wordIf negative "!" ++ path .type ++ space ++ word "for "
                    | none => [])
                ++ owner.layout)
            ++ conditionsBeforeBody parts.conditions)
          (inner.layout.flatten ++ items.layout.flatten)
  | _, .invocationItem attributes name invocation =>
      attributes.layout.flatten
        ++ (match name with
            | some text =>
                if invocation.path = ⟨false, ["macro_rules"]⟩ then
                  macroDefinition text invocation.body
                else invocation.statementLayout name
            | none => invocation.statementLayout none)
        ++ newline
  | _, .moduleItem attributes visibility isUnchecked name inner items =>
      let head :=
        visibility.layout ++ wordIf isUnchecked "unsafe " ++ word "mod " ++ word name
      attributes.layout.flatten
        ++ (match items.layout with
            | some rows => declaration (head ++ blank) (inner.layout.flatten ++ rows.flatten)
            | none => deeper (head ++ word ";") ++ newline)
  | _, .staticItem attributes visibility mutable name type value =>
      attributes.layout.flatten
        ++ column 0
          (visibility.layout ++ word "static " ++ wordIf mutable "mut " ++ word name
            ++ word ": " ++ type.layout
            ++ (match value.layout with
                | some row => word " = " ++ joint ++ row .inside
                | none => [])
            ++ word ";")
        ++ newline
  | _, .structItem attributes visibility name generics fields =>
      let parts := generics.layout
      let head := visibility.layout ++ word "struct " ++ word name ++ parts.parameters
      attributes.layout.flatten
        ++ (match fields with
            | .namedFields _ _ =>
                declaration (head ++ conditionsBeforeBody parts.conditions)
                  (memberLines fields.layout)
            | .positionalFields _ _ =>
                deeper
                    (head ++ word "(" ++ pulledBack (seam ++ commas fields.layout) ++ word ")"
                      ++ conditionsAtEnd parts.conditions)
                  ++ newline
            | .noFields => deeper (head ++ conditionsAtEnd parts.conditions) ++ newline)
  | _, .traitItem attributes visibility isUnchecked isAuto name generics _ supertraits _
      inner items =>
      let parts := generics.layout
      attributes.layout.flatten
        ++ declaration
          (visibility.layout ++ wordIf isUnchecked "unsafe " ++ wordIf isAuto "auto "
            ++ word "trait " ++ word name ++ parts.parameters
            ++ (match supertraits.layout with
                | [] => []
                | rows => word ": " ++ separatedBy (word " + ") rows)
            ++ conditionsBeforeBody parts.conditions)
          (inner.layout.flatten ++ items.layout.flatten)
  | _, .traitAliasItem attributes visibility name generics list _ =>
      let parts := generics.layout
      attributes.layout.flatten
        ++ deeper
          (visibility.layout ++ word "trait " ++ word name ++ parts.parameters ++ word " = "
            ++ joint ++ bounds [] list.layout ++ conditionsAtEnd parts.conditions)
        ++ newline
  | _, .typeItem attributes visibility name generics type =>
      let parts := generics.layout
      attributes.layout.flatten
        ++ deeper
          (visibility.layout ++ word "type " ++ word name ++ parts.parameters
            ++ conditionsBeforeType parts.conditions ++ word "= " ++ joint
            ++ filling (-indentWidth) type.layout ++ word ";")
        ++ newline
  | _, .associatedTypeItem attributes visibility isDefault name generics _ list _ type =>
      let parts := generics.layout
      attributes.layout.flatten
        ++ deeper
          (visibility.layout ++ wordIf isDefault "default " ++ word "type " ++ word name
            ++ parts.parameters ++ bounds (word ": ") list.layout
            ++ (match type.layout with
                | some row => word " = " ++ joint ++ filling (-indentWidth) row
                | none => [])
            ++ conditionsAfterType parts.conditions)
        ++ newline
  | _, .foreignTypeItem attributes visibility name generics =>
      let parts := generics.layout
      attributes.layout.flatten
        ++ column 0
          (visibility.layout ++ word "type " ++ word name ++ parts.parameters ++ word ";")
        ++ newline
  | _, .unionItem attributes visibility name generics fields =>
      let parts := generics.layout
      attributes.layout.flatten
        ++ declaration
          (visibility.layout ++ word "union " ++ word name ++ parts.parameters
            ++ conditionsBeforeBody parts.conditions)
          (memberLines fields.layout)
  | _, .useItem attributes visibility leading tree =>
      attributes.layout.flatten ++ visibility.layout ++ word "use " ++ wordIf leading "::"
        ++ tree.layout ++ word ";" ++ newline
  | _, .verbatimItem tokens => word (Token.textOf tokens) ++ newline
  | _, .usePath name tree => word name ++ word "::" ++ tree.layout
  | _, .useName name => word name
  | _, .useRename name rename => word name ++ word " as " ++ word rename
  | _, .useAll => word "*"
  | _, .useGroup trees _ =>
      let rows := trees.layout
      if isSoleImport trees then rows.flatten
      else
        word "\x7b"
          ++ deeper
            (pulledBack
              (seam ++ filling 0 (importList (trees.toList.map endsInGroup) rows)
                ++ comma true))
          ++ word "\x7d"

namespace SourceFile

/-- The text of a file. -/
def text (file : SourceFile) : String :=
  Layout.textOf
    (column 0
      ((file.attributes.flatMap fun part => part.layout)
        ++ file.items.flatMap fun item => item.layout))

end SourceFile

end Scaffold.Source
