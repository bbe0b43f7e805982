import Scaffold.Source.Grammar.Patterns
import Scaffold.Text.Pieces

/-!
Contract: the grammar of expressions.

Owns:
- operators by how tightly they bind;
- operands with what is applied to them;
- conditionals, loops, matches, closures and the literals of structures.

Where a block follows an expression, as behind the condition of a conditional, a structure
literal needs parentheses; the flag `allowStruct` is off there. Comparisons do not chain, and
a range is no left operand.
-/

namespace Scaffold.Source.Grammar

open Source.Parser

/-! ## Operators -/

/-- The binary operators in the order in which they are looked for, longer ones in front of
those that they begin with, and how tightly each binds. -/
def binaryOperators : List (String × Precedence) :=
  [("+=", .assign), ("-=", .assign), ("*=", .assign), ("/=", .assign), ("%=", .assign),
    ("^=", .assign), ("&=", .assign), ("|=", .assign), ("<<=", .assign), (">>=", .assign),
    ("&&", .and), ("||", .or), ("<<", .shift), (">>", .shift), ("==", .compare),
    ("<=", .compare), ("!=", .compare), (">=", .compare), ("+", .sum), ("-", .sum),
    ("*", .product), ("/", .product), ("%", .product), ("^", .bitXor), ("&", .bitAnd),
    ("|", .bitOr), ("<", .compare), (">", .compare)]

/-- The binary operator ahead. -/
def binaryOperator? (tokens : List Token) : Option (String × Precedence) :=
  binaryOperators.find? fun entry => atMarks entry.1 tokens

/-- How tightly an operator binds. -/
def precedenceOf (operator : String) : Precedence :=
  match binaryOperators.find? fun entry => entry.1 == operator with
  | some entry => entry.2
  | none => .jump

/-- Is a plain assignment ahead? -/
def atAssign : Test := fun tokens =>
  atMarks "=" tokens && !atMarks "=>" tokens

/-- How tightly what is ahead binds to the operand in front of it. -/
def precedenceAhead (tokens : List Token) : Precedence :=
  match binaryOperator? tokens with
  | some entry => entry.2
  | none =>
      if atAssign tokens then .assign
      else if atMarks ".." tokens then .range
      else if atWord "as" tokens then .cast
      else .jump

/-- Is the expression a range? -/
def isRange : Node .expr → Bool
  | .rangeExpr _ _ _ => true
  | _ => false

/-- Is the expression a comparison? -/
def isComparison : Node .expr → Bool
  | .binaryExpr _ operator _ => precedenceOf operator == .compare
  | _ => false

/-- Let operators that bind more tightly than `precedence` take a right operand first;
assignments group to the right. -/
def rightOperandFrom
    (grammar : Grammar)
    (allowStruct : Bool)
    (precedence : Precedence) :
    Nat → Node .expr → Parser (Node .expr)
  | 0, _ => refuse
  | fuel + 1, operand => do
      let ahead ← get
      let next := precedenceAhead ahead
      if precedence.rank < next.rank || (next == precedence && precedence == .assign) then
        let extended ← grammar.operators operand allowStruct next
        if (← get).length == ahead.length then
          return extended
        else
          rightOperandFrom grammar allowStruct precedence fuel extended
      else
        return operand

/-- Read the right operand of an operator. -/
def rightOperand
    (grammar : Grammar)
    (allowStruct : Bool)
    (precedence : Precedence) :
    Parser (Node .expr) := do
  let operand ← grammar.operand allowStruct
  rightOperandFrom grammar allowStruct precedence ((← get).length + 1) operand

/-- Does a half-open range end here, without an upper bound? -/
def atRangeEnd (allowStruct : Bool) : Test := fun tokens =>
  atEnd tokens || atMarks "," tokens || atMarks ";" tokens
    || (atMarks "." tokens && !atMarks ".." tokens)
    || atMarks "?" tokens || atMarks "=>" tokens || (!allowStruct && atBrace tokens)
    || atAnyMarks ["=", "+", "/", "%", "^", ">", "<=", "!=", "-=", "*=", "&=", "|=", "<<="]
      tokens
    || atWord "as" tokens

/-- Read the dots of a range, and tell whether they include the last value. -/
def rangeDots : Parser Bool := do
  require (← peek fun tokens => atMarks ".." tokens)
  if ← optionalMarks "..=" then
    return true
  else
    require (!(← peek (atMarks "...")))
    marks ".."
    return false

/-- Read the dots and the upper bound of a range. -/
def rangeFrom
    (grammar : Grammar)
    (start : Node (.maybe .expr))
    (allowStruct : Bool) :
    Parser (Node .expr) := do
  let closed ← rangeDots
  if !closed && (← peek (atRangeEnd allowStruct)) then
    return .rangeExpr start closed .absent
  else
    return .rangeExpr start closed (.present (← rightOperand grammar allowStruct .range))

/-- Is something ahead that cannot be applied to a cast? -/
def atAppliedToCast : Test := fun tokens =>
  (atMarks "." tokens && !atMarks ".." tokens) || atMarks "?" tokens || atBracket tokens
    || atParenthesis tokens

/-- Read the operators behind a left operand that bind at least as tightly as `base`. -/
def operatorsFrom
    (grammar : Grammar)
    (allowStruct : Bool)
    (base : Precedence) :
    Nat → Node .expr → Parser (Node .expr)
  | 0, _ => refuse
  | fuel + 1, left => do
      let ahead ← get
      if isRange left then
        return left
      else
        match binaryOperator? ahead with
        | some (operator, precedence) =>
            if precedence.rank < base.rank then
              return left
            else
              require (!(precedence == .compare && isComparison left))
              marks operator
              let right ← rightOperand grammar allowStruct precedence
              operatorsFrom grammar allowStruct base fuel (.binaryExpr left operator right)
        | none =>
            if base.rank ≤ Precedence.assign.rank && atAssign ahead then
              marks "="
              let right ← rightOperand grammar allowStruct .assign
              operatorsFrom grammar allowStruct base fuel (.assignExpr left right)
            else if base.rank ≤ Precedence.range.rank && atMarks ".." ahead then
              let range ← rangeFrom grammar (.present left) allowStruct
              operatorsFrom grammar allowStruct base fuel range
            else if base.rank ≤ Precedence.cast.rank && atWord "as" ahead then
              word "as"
              let type ← grammar.type false
              require (!(← peek atAppliedToCast))
              operatorsFrom grammar allowStruct base fuel (.castExpr left type)
            else
              return left

/-- Read the operators behind a left operand that bind at least as tightly as `base`. -/
def readOperators
    (grammar : Grammar)
    (left : Node .expr)
    (allowStruct : Bool)
    (base : Precedence) :
    Parser (Node .expr) := do
  operatorsFrom grammar allowStruct base ((← get).length + 1) left

/-- Read an expression. -/
def readExpr
    (grammar : Grammar)
    (allowStruct : Bool) :
    Parser (Node .expr) := do
  let operand ← grammar.operand allowStruct
  readOperators grammar operand allowStruct .jump

/-! ## Blocks, conditionals and loops -/

/-- Read a label, if one is ahead. -/
def label : Parser (Option String) := do
  if ← peek atLifetime then
    let name ← lifetime
    marks ":"
    return some name
  else
    return none

/-- Read a conditional; `fuel` bounds its chain of alternatives. -/
def conditional (grammar : Grammar) : Nat → Parser (Node .expr)
  | 0 => refuse
  | fuel + 1 => do
      word "if"
      let condition ← grammar.expr false
      let block ← plainBlock grammar
      if ← optionalWord "else" then
        if ← peek (atWord "if") then
          return .ifExpr condition block (.present (← conditional grammar fuel))
        else
          let otherwise ← plainBlock grammar
          return .ifExpr condition block (.present (.blockExpr (.plain none) otherwise))
      else
        return .ifExpr condition block .absent

/-- Read a conditional. -/
def ifExpr (grammar : Grammar) : Parser (Node .expr) := do
  conditional grammar ((← get).length + 1)

/-- Read a loop with a condition, behind its label. -/
def whileExpr
    (grammar : Grammar)
    (name : Option String) :
    Parser (Node .expr) := do
  word "while"
  let condition ← grammar.expr false
  return .whileExpr name condition (← attributedBlock grammar)

/-- Read a loop over the elements of a source, behind its label. -/
def forExpr
    (grammar : Grammar)
    (name : Option String) :
    Parser (Node .expr) := do
  word "for"
  let pattern ← alternatives grammar
  word "in"
  let source ← grammar.expr false
  return .forExpr name pattern source (← attributedBlock grammar)

/-- Read a loop without a condition, behind its label. -/
def loopExpr
    (grammar : Grammar)
    (name : Option String) :
    Parser (Node .expr) := do
  word "loop"
  return .blockExpr (.loop name) (← attributedBlock grammar)

/-- Read a loop or a block behind its label. -/
def labelledExpr (grammar : Grammar) : Parser (Node .expr) := do
  let name ← label
  let ahead ← get
  if atWord "while" ahead then whileExpr grammar name
  else if atWord "for" ahead then forExpr grammar name
  else if atWord "loop" ahead then loopExpr grammar name
  else if atBrace ahead then
    return .blockExpr (.plain name) (← attributedBlock grammar)
  else refuse

/-- Read a block of unchecked code. -/
def uncheckedExpr (grammar : Grammar) : Parser (Node .expr) := do
  word "unsafe"
  return .blockExpr .unchecked (← attributedBlock grammar)

/-- Read a block whose failures stay inside. -/
def attemptExpr (grammar : Grammar) : Parser (Node .expr) := do
  word "try"
  return .blockExpr .attempt (← plainBlock grammar)

/-- Read a block that runs later. -/
def asyncExpr (grammar : Grammar) : Parser (Node .expr) := do
  word "async"
  let moves ← optionalWord "move"
  return .blockExpr (.asynchronous moves) (← plainBlock grammar)

/-- Is the expression a block, a conditional, a loop or a match, which ends a statement or an
arm without a separator? -/
def isBlockLike : Node .expr → Bool
  | .attributedExpr _ expr =>
      match expr with
      | .blockExpr (.asynchronous _) _ => false
      | .blockExpr _ _ => true
      | .ifExpr _ _ _ => true
      | .matchExpr _ _ _ => true
      | .whileExpr _ _ _ => true
      | .forExpr _ _ _ _ => true
      | _ => false
  | .blockExpr (.asynchronous _) _ => false
  | .blockExpr _ _ => true
  | .ifExpr _ _ _ => true
  | .matchExpr _ _ _ => true
  | .whileExpr _ _ _ => true
  | .forExpr _ _ _ _ => true
  | _ => false

/-! ## What is applied to an operand -/

/-- The members that a number behind a dot stands for: `0.1` is member 1 of member 0, and a
dot at the end belongs to what follows. -/
def memberChain? (text : String) : Option (List String × Bool) :=
  let pieces := Text.splitAtAll (· == '.') text.toList
  let trailingDot :=
    match pieces.reverse with
    | [] :: _ => true
    | _ => false
  let indices := if trailingDot then pieces.dropLast else pieces
  if pieces.length < 2 then none
  else
    (indices.mapM position?).map fun values =>
      (values.map fun value => toString value, trailingDot)

/-- Read the member behind a dot: a number, a suspension, a call or a field. -/
def memberAccess
    (grammar : Grammar)
    (expr : Node .expr) :
    Parser (Node .expr) := do
  if ← optionalWord "await" then
    return .awaitExpr expr
  else
    let name ← member
    if isPosition name then
      return .fieldExpr expr name
    else
      let turbofish ←
        if ← peek (atMarks "::") then do
          require (← peek (third (atMarks "<")))
          angleArguments grammar (bound grammar .declared)
        else pure .noArguments
      let called ← peek atParenthesis
      if called || !PathParts.isBare turbofish then
        let list ← inside .parenthesis (commaList (grammar.expr true))
        return .methodExpr expr name turbofish (.ofList list.elements) list.trailing
      else
        return .fieldExpr expr name

/-- Is the literal a floating point number? -/
def floatAhead? : List Token → Option String
  | .literal text :: _ =>
      if isNumber text && text.toList.contains '.' then some text else none
  | _ => none

/-- Read the members behind a dot that was read. A floating point number holds two positions, or
one and the dot of the next member. -/
def membersBehindDot
    (grammar : Grammar)
    (expr : Node .expr) :
    Parser (Node .expr) := do
  match floatAhead? (← get) with
  | none => memberAccess grammar expr
  | some text =>
      match memberChain? text with
      | none => refuse
      | some (members, trailingDot) =>
          modify (List.drop 1)
          let deeper := members.foldl (fun inner name => Node.fieldExpr inner name) expr
          if trailingDot then memberAccess grammar deeper else return deeper

/-- Read everything that is applied to an operand: calls, members, indices and question
marks. -/
def applicationsFrom
    (grammar : Grammar) :
    Nat → Node .expr → Parser (Node .expr)
  | 0, _ => refuse
  | fuel + 1, expr => do
      let ahead ← get
      if atParenthesis ahead then
        let list ← inside .parenthesis (commaList (grammar.expr true))
        applicationsFrom grammar fuel (.callExpr expr (.ofList list.elements) list.trailing)
      else if atMarks "." ahead && !atMarks ".." ahead && !isRange expr then
        marks "."
        applicationsFrom grammar fuel (← membersBehindDot grammar expr)
      else if atBracket ahead then
        let index ← inside .bracket (grammar.expr true)
        applicationsFrom grammar fuel (.indexExpr expr index)
      else if atMarks "?" ahead && !isRange expr then
        marks "?"
        applicationsFrom grammar fuel (.tryExpr expr)
      else
        return expr

/-- Read everything that is applied to an operand. -/
def applications
    (grammar : Grammar)
    (expr : Node .expr) :
    Parser (Node .expr) := do
  applicationsFrom grammar ((← get).length + 1) expr

/-- Read an expression in the place of a statement or of an arm's body: one that ends in a
block ends there, unless something is applied to it. -/
def statementExpr (grammar : Grammar) : Parser (Node .expr) := do
  let attributes ← outerAttributes grammar
  let ahead ← get
  let binder := atWord "for" ahead && atParameters (ahead.drop 1)
  let expr ←
    if atWord "if" ahead then ifExpr grammar
    else if atWord "while" ahead then whileExpr grammar none
    else if atWord "for" ahead && !binder then forExpr grammar none
    else if atWord "loop" ahead then loopExpr grammar none
    else if atWord "match" ahead then grammar.matching
    else if atWord "try" ahead && second atBrace ahead then attemptExpr grammar
    else if atWord "unsafe" ahead then uncheckedExpr grammar
    else if atWord "const" ahead && second atBrace ahead then constBlock grammar
    else if atBrace ahead then do
      pure (.blockExpr (.plain none) (← attributedBlock grammar))
    else if atLifetime ahead then labelledExpr grammar
    else grammar.operand true
  if !isBlockLike expr then
    readOperators grammar (expr.withAttributes attributes) true .jump
  else
    let applied ← peek fun tokens =>
      (atMarks "." tokens && !atMarks ".." tokens) || atMarks "?" tokens
    if applied then
      let whole ← applications grammar expr
      readOperators grammar (whole.withAttributes attributes) true .jump
    else
      return expr.withAttributes attributes

/-- Read one arm of a match. -/
def matchArm (grammar : Grammar) : Parser (Node .arm) := do
  let attributes ← outerAttributes grammar
  let pattern ← alternatives grammar
  let guard ← if ← optionalWord "if" then some <$> grammar.expr true else pure none
  marks "=>"
  let body ← statementExpr grammar
  let comma ← optionalMarks ","
  let ends ← peek atEnd
  require (comma || ends || isBlockLike body)
  return .matchArm attributes pattern (.ofOption guard) body comma

/-- Read a match. -/
def matchExpr (grammar : Grammar) : Parser (Node .expr) := do
  word "match"
  let scrutinee ← grammar.expr false
  inside .brace do
    let inner ← innerAttributes grammar
    let arms ← repeatToEnd (matchArm grammar)
    return .matchExpr scrutinee inner (.ofList arms)

/-! ## Closures, jumps and literals of structures -/

/-- Read one parameter of a closure. A pattern that is kept as its tokens takes no attributes. -/
def closureInput (grammar : Grammar) : Parser (Node .pattern) := do
  let attributes ← outerAttributes grammar
  let pattern ← grammar.pattern
  if ← optionalMarks ":" then
    let typed := Node.typedPattern pattern (← grammar.type true)
    return if attributes.isNil then typed else .attributedPattern attributes typed
  else
    match pattern with
    | .verbatimPattern _ => return pattern
    | _ => return if attributes.isNil then pattern else .attributedPattern attributes pattern

/-- Read a closure. -/
def closureExpr
    (grammar : Grammar)
    (allowStruct : Bool) :
    Parser (Node .expr) := do
  let outer ← optionally (atWord "for") (binder grammar)
  let isConst ← optionalWord "const"
  let isStatic ← optionalWord "static"
  let isAsync ← optionalWord "async"
  let moves ← optionalWord "move"
  marks "|"
  let inputs ← separatedTo (atMarks "|") "," (closureInput grammar)
  marks "|"
  let head : ClosureHead := ⟨isConst, isStatic, isAsync, moves⟩
  if ← optionalMarks "->" then
    let type ← grammar.type true
    let block ← plainBlock grammar
    return .closureExpr (.ofOption outer) head (.ofList inputs.elements) inputs.trailing
      (.present type) (.blockExpr (.plain none) block)
  else
    let body ← grammar.expr allowStruct
    return .closureExpr (.ofOption outer) head (.ofList inputs.elements) inputs.trailing
      .absent body

/-- May an expression begin here? -/
def atExpr : Test := fun tokens =>
  (atAnyWord tokens && !atWord "as" tokens)
    || atParenthesis tokens || atBracket tokens || atBrace tokens
    || atLiteral tokens
    || (atMarks "!" tokens && !atMarks "!=" tokens)
    || (atMarks "-" tokens && !atMarks "-=" tokens && !atMarks "->" tokens)
    || (atMarks "*" tokens && !atMarks "*=" tokens)
    || (atMarks "|" tokens && !atMarks "|=" tokens)
    || (atMarks "&" tokens && !atMarks "&=" tokens)
    || atMarks ".." tokens
    || (atMarks "<" tokens && !atMarks "<=" tokens && !atMarks "<<=" tokens)
    || atMarks "::" tokens || atLifetime tokens || atMarks "#" tokens

/-- Read the value of a jump, if there is one. It may be a structure literal everywhere, but
where that is not allowed no brace begins it. -/
def jumpValue
    (grammar : Grammar)
    (allowStruct : Bool) :
    Parser (Node (.maybe .expr)) := do
  let begins ← peek fun tokens => atExpr tokens && (allowStruct || !atBrace tokens)
  if begins then
    return .present (← grammar.expr true)
  else
    return .absent

/-- Read a jump out of a loop or block. A labelled loop as its value needs parentheses. -/
def breakExpr
    (grammar : Grammar)
    (allowStruct : Bool) :
    Parser (Node .expr) := do
  word "break"
  let name ← optionalLifetime
  let labelled ← peek (atMarks ":")
  require (!(name.isSome && labelled))
  return .jumpExpr (.exit name) (← jumpValue grammar allowStruct)

/-- Read one field of a structure literal. -/
def memberValue (grammar : Grammar) : Parser (Node .fieldValue) := do
  let attributes ← outerAttributes grammar
  let name ← member
  let colon ← peek (atMarks ":")
  if colon || isPosition name then
    marks ":"
    return .memberValue attributes name true (← grammar.expr true)
  else
    return .memberValue attributes name false
      (.pathExpr (.simplePath false (.cons (.pathSegment name .noArguments) .nil)))

/-- The fields of a structure literal, and the dots behind them with what they stand for. -/
structure LiteralFields where
  fields : Separated (Node .fieldValue)
  rest : Option (Node (.maybe .expr))

/-- Read the fields of a structure literal up to the end of its braces. -/
def literalFields (grammar : Grammar) : Nat → Parser LiteralFields
  | 0 => refuse
  | fuel + 1 => do
      if ← peek atEnd then
        return ⟨⟨[], false⟩, none⟩
      else if ← optionalMarks ".." then
        if ← peek atEnd then
          return ⟨⟨[], false⟩, some .absent⟩
        else
          return ⟨⟨[], false⟩, some (.present (← grammar.expr true))⟩
      else
        let head ← memberValue grammar
        if ← peek atEnd then
          return ⟨⟨[head], false⟩, none⟩
        else
          marks ","
          let tail ← literalFields grammar fuel
          return ⟨.cons head tail.fields, tail.rest⟩

/-- Read an expression that begins with a path. -/
def exprFromPath
    (grammar : Grammar)
    (allowStruct : Bool) :
    Parser (Node .expr) := do
  let read ← qualifiablePath grammar true
  let bang ← peek atBang
  match read.plain?, bang with
  | some plain, true => return .invocationExpr (← invocationBehind plain)
  | _, _ =>
      if allowStruct && (← peek atBrace) then
        let content ← inside .brace do
          literalFields grammar ((← get).length + 1)
        return .structExpr read.toNode (.ofList content.fields.elements)
          content.fields.trailing (.ofOption content.rest)
      else
        return .pathExpr read.toNode

/-- Read an expression in parentheses or a tuple. -/
def parenthesizedExpr (grammar : Grammar) : Parser (Node .expr) := do
  let list ← inside .parenthesis (commaList (grammar.expr true))
  match list.elements, list.trailing with
  | [single], false => return .parenthesizedExpr single
  | _, _ => return .tupleExpr (.ofList list.elements) list.trailing

/-- Read an array with its elements or with one element repeated. -/
def bracketedExpr (grammar : Grammar) : Parser (Node .expr) :=
  inside .bracket do
    if ← peek atEnd then
      return .arrayExpr .nil false
    else
      let first ← grammar.expr true
      if ← optionalMarks ";" then
        return .repeatExpr first (← grammar.expr true)
      else
        let list ← commaListBehind first (grammar.expr true)
        return .arrayExpr (.ofList list.elements) list.trailing

/-- Read a test of a pattern, which binds like a comparison. -/
def letExpr
    (grammar : Grammar)
    (allowStruct : Bool) :
    Parser (Node .expr) := do
  word "let"
  let pattern ← alternatives grammar
  marks "="
  let left ← grammar.operand allowStruct
  return .letExpr pattern (← readOperators grammar left allowStruct .compare)

/-- Does a closure begin here? -/
def atClosure : Test := fun tokens =>
  atMarks "|" tokens || atWord "move" tokens
    || (atWord "for" tokens && atParameters (tokens.drop 1))
    || (atWord "const" tokens && !second atBrace tokens)
    || atWord "static" tokens
    || (atWord "async" tokens && (second (atMarks "|") tokens || second (atWord "move") tokens))

/-- Does a path begin here among expressions? -/
def atPathExpr : Test := fun tokens =>
  atExprPath tokens
    || (atWord "try" tokens && (second (atMarks "!") tokens || second (atMarks "::") tokens))

/-- Read an expression that nothing is applied to yet. -/
def atom
    (grammar : Grammar)
    (allowStruct : Bool) :
    Parser (Node .expr) := do
  let ahead ← get
  if atLiteral ahead then
    return .literalExpr (← literal)
  else if atWord "async" ahead
      && (second atBrace ahead || (second (atWord "move") ahead && third atBrace ahead)) then
    asyncExpr grammar
  else if atWord "try" ahead && second atBrace ahead then attemptExpr grammar
  else if atClosure ahead then closureExpr grammar allowStruct
  else if atBuiltin ahead then do
    builtin
    return .verbatimExpr (← readSince ahead)
  else if atPathExpr ahead then exprFromPath grammar allowStruct
  else if atParenthesis ahead then parenthesizedExpr grammar
  else if atWord "break" ahead then breakExpr grammar allowStruct
  else if atWord "continue" ahead then do
    word "continue"
    return .continueExpr (← optionalLifetime)
  else if atWord "return" ahead then do
    word "return"
    return .jumpExpr .result (← jumpValue grammar true)
  else if atWord "become" ahead then do
    word "become"
    let _ ← grammar.expr true
    return .verbatimExpr (← readSince ahead)
  else if atBracket ahead then bracketedExpr grammar
  else if atWord "let" ahead then letExpr grammar allowStruct
  else if atWord "if" ahead then ifExpr grammar
  else if atWord "while" ahead then whileExpr grammar none
  else if atWord "for" ahead then forExpr grammar none
  else if atWord "loop" ahead then loopExpr grammar none
  else if atWord "match" ahead then matchExpr grammar
  else if atWord "yield" ahead then do
    word "yield"
    return .jumpExpr .emission (← jumpValue grammar true)
  else if atWord "unsafe" ahead then uncheckedExpr grammar
  else if atWord "const" ahead then constBlock grammar
  else if atBrace ahead then
    return .blockExpr (.plain none) (← attributedBlock grammar)
  else if atMarks ".." ahead then rangeFrom grammar .absent allowStruct
  else if atWord "_" ahead then do
    word "_"
    return .inferredExpr
  else if atLifetime ahead then labelledExpr grammar
  else refuse

/-- Read the prefix operator that borrows, behind its mark: with or without mutability, or as
a raw address. -/
def borrowOperator : Parser PrefixOperator := do
  let raw ← peek fun tokens =>
    atWord "raw" tokens && (second (atWord "mut") tokens || second (atWord "const") tokens)
  if raw then
    word "raw"
    if ← optionalWord "mut" then
      return .addressMutable
    else
      word "const"
      return .addressConstant
  else if ← optionalWord "mut" then
    return .borrowMutable
  else
    return .borrow

/-- Read an operand with its prefix operators and what is applied to it. A range may not have
attributes in front, and one that is kept as its tokens keeps those of its attributes. -/
def readOperand
    (grammar : Grammar)
    (allowStruct : Bool) :
    Parser (Node .expr) := do
  let start ← get
  let attributes ← outerAttributes grammar
  if ← optionalMarks "&" then
    let operator ← borrowOperator
    let expr ← grammar.operand allowStruct
    return (Node.prefixExpr operator expr).withAttributes attributes
  else if ← optionalMarks "*" then
    let expr ← grammar.operand allowStruct
    return (Node.prefixExpr .dereference expr).withAttributes attributes
  else if ← optionalMarks "!" then
    let expr ← grammar.operand allowStruct
    return (Node.prefixExpr .not expr).withAttributes attributes
  else if ← optionalMarks "-" then
    let expr ← grammar.operand allowStruct
    return (Node.prefixExpr .negate expr).withAttributes attributes
  else
    let expr ← applications grammar (← atom grammar allowStruct)
    require (attributes.isNil || !isRange expr)
    match expr with
    | .verbatimExpr _ => return .verbatimExpr (← readSince start)
    | _ => return expr.withAttributes attributes

end Scaffold.Source.Grammar
