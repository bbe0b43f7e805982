import Scaffold.Source.Tree

/-!
Contract: the tokens that a syntax tree is spelled with.

Owns:
- the row of tokens of every node;
- the comparison of trees by their tokens.

Two trees are the same declaration exactly if their full rows of tokens are equal: blanks,
comments and the layout of the source play no part, while every comma, literal and attribute
does, and so does a colon with no bound behind it. Operators are spelled joined inside and
alone at their end, whatever the source had; only the arguments of macros and of list
attributes keep the source's spacing.
-/

namespace Scaffold.Source

/-- What the tokens of a node of each category are: a list or an option for those parts,
generics in front of and behind what they parametrize, and one row for all other nodes. -/
abbrev Spelled : Category → Type
  | .many c => List (Spelled c)
  | .maybe c => Option (Spelled c)
  | .generics => List Token × List Token
  | .attribute | .path | .segment | .segmentArguments | .argument | .bound | .binder | .type
  | .bareParameter | .genericParameter | .predicate | .expr | .block | .arm | .fieldValue
  | .statement | .pattern | .fieldPattern | .parameter | .signature | .field | .fields
  | .variant | .item | .useTree => List Token

namespace Spelling

/-- A keyword or name. -/
def word (text : String) : List Token :=
  [.word text]

/-- A keyword that is there if the condition holds. -/
def wordIf (condition : Bool) (text : String) : List Token :=
  if condition then [.word text] else []

/-- An operator that is there if the condition holds. -/
def marksIf (condition : Bool) (operator : String) : List Token :=
  if condition then Token.marks operator else []

/-- Rows with a separator between them, and one behind the last if `trailing` says so. -/
def separated
    (separator : String)
    (rows : List (List Token))
    (trailing : Bool) :
    List Token :=
  (rows.intersperse (Token.marks separator)).flatten ++ marksIf trailing separator

/-- Rows separated by commas. -/
def commaSeparated
    (rows : List (List Token))
    (trailing : Bool) :
    List Token :=
  separated "," rows trailing

/-- Rows of generic parameters or arguments separated by commas: in the order of the source
with `full`, else with lifetimes first. -/
def lifetimesLed
    {c : Category}
    (full : Bool)
    (nodes : Node (.many c))
    (rows : List (List Token))
    (trailing : Bool) :
    List Token :=
  if full then commaSeparated rows trailing
  else commaSeparated (nodes.lifetimesFirst rows) (nodes.endsSeparated trailing)

/-- A row in parentheses. -/
def parenthesized (inner : List Token) : List Token :=
  Token.group .parenthesis inner

/-- A row in brackets. -/
def bracketed (inner : List Token) : List Token :=
  Token.group .bracket inner

/-- A row in braces. -/
def braced (inner : List Token) : List Token :=
  Token.group .brace inner

/-- A row in angle brackets. -/
def angled (inner : List Token) : List Token :=
  Token.marks "<" ++ inner ++ Token.marks ">"

/-- An optional part with a lead in front of it. -/
def led
    (lead : List Token)
    (row : Option (List Token)) :
    List Token :=
  match row with
  | some tokens => lead ++ tokens
  | none => []

/-- A return type behind its arrow. -/
def output (row : Option (List Token)) : List Token :=
  led (Token.marks "->") row

/-- A list with a colon in front; where the list is empty, `colon` tells if the colon stays. -/
def boundList
    (colon : Bool)
    (rows : List (List Token))
    (trailing : Bool) :
    List Token :=
  marksIf (colon || !rows.isEmpty) ":" ++ separated "+" rows trailing

/-- A literal. A sign is a mark of its own, and the truth values are words. -/
def literal (text : String) : List Token :=
  if text = "true" || text = "false" then [.word text]
  else
    match text.toList with
    | '-' :: rest => [.mark '-' .alone, .literal (String.ofList rest)]
    | _ => [.literal text]

/-- The name of a field, or its position. -/
def member (name : String) : List Token :=
  match name.toList with
  | first :: _ =>
      if 0x30 ≤ first.toNat && first.toNat ≤ 0x39 then [.literal name] else [.word name]
  | [] => [.word name]

/-- A label in front of a loop or block. -/
def label : Option String → List Token
  | some name => Token.lifetime name ++ Token.marks ":"
  | none => []

/-- A label behind a jump. -/
def target : Option String → List Token
  | some name => Token.lifetime name
  | none => []

end Spelling

open Spelling

/-- The tokens of a plain path. -/
def PlainPath.tokens (path : PlainPath) : List Token :=
  marksIf path.leading "::" ++ separated "::" (path.names.map word) false

/-- The tokens of a visibility. -/
def Visibility.tokens : Visibility → List Token
  | .inherited => []
  | .everywhere => word "pub"
  | .within spelledIn path =>
      word "pub" ++ parenthesized (wordIf spelledIn "in" ++ path.tokens)

/-- The tokens of a macro invocation. -/
def Invocation.tokens (invocation : Invocation) : List Token :=
  invocation.path.tokens ++ Token.marks "!"
    ++ Token.group invocation.delimiter invocation.body

/-- The tokens of a calling convention. -/
def Convention.tokens : Option Convention → List Token
  | none => []
  | some .standard => word "extern"
  | some (.named text) => [.word "extern", .literal text]

/-- The tokens of a prefix operator. -/
def PrefixOperator.tokens : PrefixOperator → List Token
  | .dereference => Token.marks "*"
  | .not => Token.marks "!"
  | .negate => Token.marks "-"
  | .borrow => Token.marks "&"
  | .borrowMutable => Token.marks "&" ++ word "mut"
  | .addressConstant => Token.marks "&" ++ [.word "raw", .word "const"]
  | .addressMutable => Token.marks "&" ++ [.word "raw", .word "mut"]

/-- The tokens in front of a block that is an expression. -/
def BlockHead.tokens : BlockHead → List Token
  | .plain name => label name
  | .asynchronous moves => word "async" ++ wordIf moves "move"
  | .constant => word "const"
  | .unchecked => word "unsafe"
  | .attempt => word "try"
  | .loop name => label name ++ word "loop"

/-- The tokens of a jump. -/
def Jump.tokens : Jump → List Token
  | .exit name => word "break" ++ target name
  | .result => word "return"
  | .emission => word "yield"

/-- The tokens in front of the parameters of a closure. -/
def ClosureHead.tokens (head : ClosureHead) : List Token :=
  wordIf head.isConst "const" ++ wordIf head.isStatic "static" ++ wordIf head.isAsync "async"
    ++ wordIf head.moves "move"

/-- The tokens in front of the name of a function. -/
def FunctionHead.tokens (head : FunctionHead) : List Token :=
  wordIf head.isConst "const" ++ wordIf head.isAsync "async"
    ++ wordIf head.isUnchecked "unsafe" ++ Convention.tokens head.convention ++ word "fn"

/-- An attribute around the tokens in its brackets. -/
def attributeTokens
    (inner : Bool)
    (body : List Token) :
    List Token :=
  Token.marks "#" ++ marksIf inner "!" ++ bracketed body

/-- The tokens of a node. With `full`, a colon, a `where` or a pair of angle brackets is spelled
even where it has nothing behind it or in it, and lifetimes stay where the source has them. -/
def Node.spell (full : Bool) : {c : Category} → Node c → Spelled c
  | _, .nil => []
  | _, .cons head tail => (head.spell full) :: (tail.spell full)
  | _, .absent => none
  | _, .present node => some (node.spell full)
  | _, .pathAttribute inner path => attributeTokens inner path.tokens
  | _, .listAttribute inner path delimiter body =>
      attributeTokens inner (path.tokens ++ Token.group delimiter body)
  | _, .valueAttribute inner path value =>
      attributeTokens inner (path.tokens ++ Token.marks "=" ++ (value.spell full))
  | _, .simplePath leading segments =>
      marksIf leading "::" ++ separated "::" (segments.spell full) false
  | _, .qualifiedPath owner trait segments =>
      angled ((owner.spell full) ++ led (word "as") (trait.spell full))
        ++ Token.marks "::" ++ separated "::" (segments.spell full) false
  | _, .pathSegment name arguments => word name ++ (arguments.spell full)
  | _, .noArguments => []
  | _, .angleArguments turbofish arguments trailing =>
      marksIf turbofish "::" ++ angled (lifetimesLed full arguments (arguments.spell full) trailing)
  | _, .callArguments inputs trailing result =>
      parenthesized (commaSeparated (inputs.spell full) trailing) ++ output (result.spell full)
  | _, .lifetimeArgument name => Token.lifetime name
  | _, .typeArgument type => type.spell full
  | _, .constArgument value => value.spell full
  | _, .typeBinding name arguments type =>
      word name ++ (arguments.spell full) ++ Token.marks "=" ++ (type.spell full)
  | _, .constBinding name arguments value =>
      word name ++ (arguments.spell full) ++ Token.marks "=" ++ (value.spell full)
  | _, .boundConstraint name arguments bounds trailing =>
      word name ++ (arguments.spell full) ++ Token.marks ":"
        ++ separated "+" (bounds.spell full) trailing
  | _, .traitBound parens optional binder path =>
      let inner := led [] (binder.spell full) ++ marksIf optional "?" ++ (path.spell full)
      if parens then parenthesized inner else inner
  | _, .lifetimeBound name => Token.lifetime name
  | _, .captureBound names trailing =>
      word "use" ++ angled (commaSeparated names trailing)
  | _, .verbatimBound tokens => tokens
  | _, .forBinder parameters trailing =>
      word "for" ++ angled (commaSeparated (parameters.spell full) trailing)
  | _, .lifetimeParameter attributes name colon bounds trailing =>
      (attributes.spell full).flatten ++ Token.lifetime name
        ++ boundList (full && colon) (bounds.map Token.lifetime) trailing
  | _, .typeParameter attributes name colon bounds trailing default =>
      (attributes.spell full).flatten ++ word name
        ++ boundList (full && colon) (bounds.spell full) trailing
        ++ led (Token.marks "=") (default.spell full)
  | _, .constParameter attributes name type default =>
      (attributes.spell full).flatten ++ [.word "const", .word name] ++ Token.marks ":"
        ++ (type.spell full) ++ led (Token.marks "=") (default.spell full)
  | _, .lifetimePredicate name bounds trailing =>
      Token.lifetime name ++ Token.marks ":"
        ++ separated "+" (bounds.map Token.lifetime) trailing
  | _, .typePredicate binder type bounds trailing =>
      led [] (binder.spell full) ++ (type.spell full) ++ Token.marks ":"
        ++ separated "+" (bounds.spell full) trailing
  | _, .genericList bracketed parameters trailing conditions conditionsTrailing =>
      let rows := parameters.spell full
      (if (full && bracketed) || !rows.isEmpty then
          angled (lifetimesLed full parameters rows trailing)
        else [],
        match conditions.spell full with
        | some list =>
            wordIf (full || !list.isEmpty) "where" ++ commaSeparated list conditionsTrailing
        | none => [])
  | _, .arrayType element length =>
      Spelling.bracketed ((element.spell full) ++ Token.marks ";" ++ (length.spell full))
  | _, .functionType binder isUnchecked convention parameters trailing result =>
      led [] (binder.spell full) ++ wordIf isUnchecked "unsafe" ++ Convention.tokens convention
        ++ word "fn" ++ parenthesized (commaSeparated (parameters.spell full) trailing)
        ++ output (result.spell full)
  | _, .groupedType type => type.spell full
  | _, .implType bounds trailing => word "impl" ++ separated "+" (bounds.spell full) trailing
  | _, .inferredType => word "_"
  | _, .invocationType invocation => invocation.tokens
  | _, .neverType => Token.marks "!"
  | _, .parenthesizedType type => parenthesized (type.spell full)
  | _, .pathType path => path.spell full
  | _, .pointerType mutable type =>
      Token.marks "*" ++ word (if mutable then "mut" else "const") ++ (type.spell full)
  | _, .referenceType lifetime mutable type =>
      Token.marks "&" ++ target lifetime ++ wordIf mutable "mut" ++ (type.spell full)
  | _, .sliceType element => Spelling.bracketed (element.spell full)
  | _, .objectType spelledDyn bounds trailing =>
      wordIf spelledDyn "dyn" ++ separated "+" (bounds.spell full) trailing
  | _, .tupleType elements trailing =>
      parenthesized (commaSeparated (elements.spell full) trailing)
  | _, .verbatimType tokens => tokens
  | _, .inputParameter attributes name type =>
      (attributes.spell full).flatten
        ++ (match name with
            | some text => word text ++ Token.marks ":"
            | none => [])
        ++ (type.spell full)
  | _, .inputVariadic attributes name =>
      (attributes.spell full).flatten
        ++ (match name with
            | some text => word text ++ Token.marks ":"
            | none => [])
        ++ Token.marks "..."
  | _, .attributedExpr attributes expr =>
      let row := expr.spell full
      (attributes.spell full).flatten
        ++ (match expr with
            | .rangeExpr _ _ _ => if full then row else parenthesized row
            | _ => row)
  | _, .arrayExpr elements trailing =>
      Spelling.bracketed (commaSeparated (elements.spell full) trailing)
  | _, .assignExpr place value => (place.spell full) ++ Token.marks "=" ++ (value.spell full)
  | _, .awaitExpr expr => (expr.spell full) ++ Token.marks "." ++ word "await"
  | _, .binaryExpr left operator right =>
      (left.spell full) ++ Token.marks operator ++ (right.spell full)
  | _, .blockExpr head block => head.tokens ++ (block.spell full)
  | _, .callExpr callee arguments trailing =>
      (callee.spell full) ++ parenthesized (commaSeparated (arguments.spell full) trailing)
  | _, .castExpr expr type => (expr.spell full) ++ word "as" ++ (type.spell full)
  | _, .closureExpr binder head inputs trailing result body =>
      led [] (binder.spell full) ++ head.tokens ++ Token.marks "|"
        ++ commaSeparated (inputs.spell full) trailing ++ Token.marks "|"
        ++ output (result.spell full) ++ (body.spell full)
  | _, .continueExpr name => word "continue" ++ target name
  | _, .fieldExpr expr name => (expr.spell full) ++ Token.marks "." ++ member name
  | _, .forExpr name pattern source block =>
      label name ++ word "for" ++ (pattern.spell full) ++ word "in" ++ (source.spell full)
        ++ (block.spell full)
  | _, .ifExpr condition block otherwise =>
      word "if" ++ (condition.spell full) ++ (block.spell full)
        ++ led (word "else") (otherwise.spell full)
  | _, .indexExpr expr index => (expr.spell full) ++ Spelling.bracketed (index.spell full)
  | _, .inferredExpr => word "_"
  | _, .jumpExpr jump value => jump.tokens ++ led [] (value.spell full)
  | _, .letExpr pattern value =>
      word "let" ++ (pattern.spell full) ++ Token.marks "=" ++ (value.spell full)
  | _, .literalExpr text => literal text
  | _, .invocationExpr invocation => invocation.tokens
  | _, .matchExpr scrutinee inner arms =>
      word "match" ++ (scrutinee.spell full)
        ++ braced ((inner.spell full).flatten ++ (arms.spell full).flatten)
  | _, .methodExpr receiver method turbofish arguments trailing =>
      (receiver.spell full) ++ Token.marks "." ++ word method ++ (turbofish.spell full)
        ++ parenthesized (commaSeparated (arguments.spell full) trailing)
  | _, .parenthesizedExpr expr => parenthesized (expr.spell full)
  | _, .pathExpr path => path.spell full
  | _, .prefixExpr operator expr => operator.tokens ++ (expr.spell full)
  | _, .rangeExpr start closed stop =>
      led [] (start.spell full) ++ Token.marks (if closed then "..=" else "..")
        ++ led [] (stop.spell full)
  | _, .repeatExpr element length =>
      Spelling.bracketed ((element.spell full) ++ Token.marks ";" ++ (length.spell full))
  | _, .structExpr path fields trailing rest =>
      (path.spell full)
        ++ braced
          (commaSeparated (fields.spell full) trailing
            ++ (match rest.spell full with
                | some base => Token.marks ".." ++ led [] base
                | none => []))
  | _, .tryExpr expr => (expr.spell full) ++ Token.marks "?"
  | _, .tupleExpr elements trailing =>
      parenthesized (commaSeparated (elements.spell full) trailing)
  | _, .whileExpr name condition block =>
      label name ++ word "while" ++ (condition.spell full) ++ (block.spell full)
  | _, .verbatimExpr tokens => tokens
  | _, .matchArm attributes pattern guard body comma =>
      (attributes.spell full).flatten ++ (pattern.spell full) ++ led (word "if") (guard.spell full)
        ++ Token.marks "=>" ++ (body.spell full) ++ marksIf comma ","
  | _, .memberValue attributes name colon value =>
      (attributes.spell full).flatten ++ member name
        ++ (if colon then Token.marks ":" ++ (value.spell full) else [])
  | _, .blockBody inner statements =>
      braced ((inner.spell full).flatten ++ (statements.spell full).flatten)
  | _, .letStatement attributes pattern value otherwise =>
      (attributes.spell full).flatten ++ word "let" ++ (pattern.spell full)
        ++ led (Token.marks "=") (value.spell full) ++ led (word "else") (otherwise.spell full)
        ++ Token.marks ";"
  | _, .itemStatement item => item.spell full
  | _, .exprStatement expr semicolon => (expr.spell full) ++ marksIf semicolon ";"
  | _, .invocationStatement attributes invocation semicolon =>
      (attributes.spell full).flatten ++ invocation.tokens ++ marksIf semicolon ";"
  | _, .emptyStatement => Token.marks ";"
  | _, .attributedPattern attributes pattern =>
      (attributes.spell full).flatten ++ (pattern.spell full)
  | _, .exprPattern expr => expr.spell full
  | _, .namePattern byReference mutable name subpattern =>
      wordIf byReference "ref" ++ wordIf mutable "mut" ++ word name
        ++ led (Token.marks "@") (subpattern.spell full)
  | _, .invocationPattern invocation => invocation.tokens
  | _, .orPattern leading cases => marksIf leading "|" ++ separated "|" (cases.spell full) false
  | _, .parenthesizedPattern pattern => parenthesized (pattern.spell full)
  | _, .rangePattern start closed stop =>
      led [] (start.spell full) ++ Token.marks (if closed then "..=" else "..")
        ++ led [] (stop.spell full)
  | _, .referencePattern mutable pattern =>
      Token.marks "&" ++ wordIf mutable "mut" ++ (pattern.spell full)
  | _, .restPattern => Token.marks ".."
  | _, .slicePattern elements trailing =>
      Spelling.bracketed (commaSeparated (elements.spell full) trailing)
  | _, .structPattern path fields trailing rest =>
      (path.spell full)
        ++ braced
          (commaSeparated (fields.spell full) trailing
            ++ (match rest.spell full with
                | some attributes => attributes.flatten ++ Token.marks ".."
                | none => []))
  | _, .tuplePattern elements trailing =>
      parenthesized (commaSeparated (elements.spell full) trailing)
  | _, .tupleStructPattern path elements trailing =>
      (path.spell full) ++ parenthesized (commaSeparated (elements.spell full) trailing)
  | _, .typedPattern pattern type => (pattern.spell full) ++ Token.marks ":" ++ (type.spell full)
  | _, .wildcardPattern => word "_"
  | _, .verbatimPattern tokens => tokens
  | _, .memberPattern attributes name colon pattern =>
      (attributes.spell full).flatten ++ (if colon then member name ++ Token.marks ":" else [])
        ++ (pattern.spell full)
  | _, .selfParameter attributes reference mutable type =>
      (attributes.spell full).flatten
        ++ (match reference with
            | some lifetime => Token.marks "&" ++ target lifetime
            | none => [])
        ++ wordIf mutable "mut" ++ word "self" ++ led (Token.marks ":") (type.spell full)
  | _, .typedParameter attributes pattern type =>
      (attributes.spell full).flatten ++ (pattern.spell full) ++ Token.marks ":"
        ++ (type.spell full)
  | _, .variadicParameter attributes pattern =>
      (attributes.spell full).flatten
        ++ (match pattern.spell full with
            | some row => row ++ Token.marks ":"
            | none => [])
        ++ Token.marks "..."
  | _, .functionSignature head name generics parameters trailing result =>
      let (lead, conditions) := generics.spell full
      head.tokens ++ word name ++ lead
        ++ parenthesized (commaSeparated (parameters.spell full) trailing)
        ++ output (result.spell full) ++ conditions
  | _, .namedField attributes visibility name type =>
      (attributes.spell full).flatten ++ visibility.tokens ++ word name ++ Token.marks ":"
        ++ (type.spell full)
  | _, .positionalField attributes visibility type =>
      (attributes.spell full).flatten ++ visibility.tokens ++ (type.spell full)
  | _, .namedFields fields trailing => braced (commaSeparated (fields.spell full) trailing)
  | _, .positionalFields fields trailing =>
      parenthesized (commaSeparated (fields.spell full) trailing)
  | _, .noFields => []
  | _, .enumVariant attributes name fields discriminant =>
      (attributes.spell full).flatten ++ word name ++ (fields.spell full)
        ++ led (Token.marks "=") (discriminant.spell full)
  | _, .constItem attributes visibility isDefault name type value =>
      (attributes.spell full).flatten ++ visibility.tokens ++ wordIf isDefault "default"
        ++ [.word "const", .word name] ++ Token.marks ":" ++ (type.spell full)
        ++ led (Token.marks "=") (value.spell full) ++ Token.marks ";"
  | _, .enumItem attributes visibility name generics variants trailing =>
      let (lead, conditions) := generics.spell full
      (attributes.spell full).flatten ++ visibility.tokens ++ [.word "enum", .word name] ++ lead
        ++ conditions ++ braced (commaSeparated (variants.spell full) trailing)
  | _, .crateItem attributes visibility name rename =>
      (attributes.spell full).flatten ++ visibility.tokens
        ++ [.word "extern", .word "crate", .word name]
        ++ (match rename with
            | some text => [.word "as", .word text]
            | none => [])
        ++ Token.marks ";"
  | _, .functionItem attributes visibility isDefault signature body =>
      (attributes.spell full).flatten ++ visibility.tokens ++ wordIf isDefault "default"
        ++ (signature.spell full)
        ++ (match body.spell full with
            | some row => row
            | none => Token.marks ";")
  | _, .foreignItem attributes isUnchecked convention inner items =>
      (attributes.spell full).flatten ++ wordIf isUnchecked "unsafe"
        ++ Convention.tokens (some convention)
        ++ braced ((inner.spell full).flatten ++ (items.spell full).flatten)
  | _, .implItem attributes isDefault isUnchecked generics negative trait owner inner items =>
      let (lead, conditions) := generics.spell full
      (attributes.spell full).flatten ++ wordIf isDefault "default" ++ wordIf isUnchecked "unsafe"
        ++ word "impl" ++ lead
        ++ (match trait.spell full with
            | some path => marksIf negative "!" ++ path ++ word "for"
            | none => [])
        ++ (owner.spell full) ++ conditions
        ++ braced ((inner.spell full).flatten ++ (items.spell full).flatten)
  | _, .invocationItem attributes name invocation =>
      (attributes.spell full).flatten ++ invocation.path.tokens ++ Token.marks "!"
        ++ (match name with
            | some text => word text
            | none => [])
        ++ Token.group invocation.delimiter invocation.body
        ++ marksIf (invocation.delimiter != .brace) ";"
  | _, .moduleItem attributes visibility isUnchecked name inner items =>
      (attributes.spell full).flatten ++ visibility.tokens ++ wordIf isUnchecked "unsafe"
        ++ [.word "mod", .word name]
        ++ (match items.spell full with
            | some rows => braced ((inner.spell full).flatten ++ rows.flatten)
            | none => Token.marks ";")
  | _, .staticItem attributes visibility mutable name type value =>
      (attributes.spell full).flatten ++ visibility.tokens ++ word "static"
        ++ wordIf mutable "mut" ++ word name ++ Token.marks ":" ++ (type.spell full)
        ++ led (Token.marks "=") (value.spell full) ++ Token.marks ";"
  | _, .structItem attributes visibility name generics fields =>
      let (lead, conditions) := generics.spell full
      (attributes.spell full).flatten ++ visibility.tokens ++ [.word "struct", .word name] ++ lead
        ++ (match fields with
            | .namedFields _ _ => conditions ++ (fields.spell full)
            | .positionalFields _ _ => (fields.spell full) ++ conditions ++ Token.marks ";"
            | .noFields => conditions ++ Token.marks ";")
  | _, .traitItem attributes visibility isUnchecked isAuto name generics colon bounds trailing
      inner items =>
      let (lead, conditions) := generics.spell full
      (attributes.spell full).flatten ++ visibility.tokens ++ wordIf isUnchecked "unsafe"
        ++ wordIf isAuto "auto" ++ [.word "trait", .word name] ++ lead
        ++ boundList (full && colon) (bounds.spell full) trailing ++ conditions
        ++ braced ((inner.spell full).flatten ++ (items.spell full).flatten)
  | _, .traitAliasItem attributes visibility name generics bounds trailing =>
      let (lead, conditions) := generics.spell full
      (attributes.spell full).flatten ++ visibility.tokens ++ [.word "trait", .word name] ++ lead
        ++ Token.marks "=" ++ separated "+" (bounds.spell full) trailing ++ conditions
        ++ Token.marks ";"
  | _, .typeItem attributes visibility name generics type =>
      let (lead, conditions) := generics.spell full
      (attributes.spell full).flatten ++ visibility.tokens ++ [.word "type", .word name] ++ lead
        ++ conditions ++ Token.marks "=" ++ (type.spell full) ++ Token.marks ";"
  | _, .associatedTypeItem attributes visibility isDefault name generics colon bounds trailing
      type =>
      let (lead, conditions) := generics.spell full
      (attributes.spell full).flatten ++ visibility.tokens ++ wordIf isDefault "default"
        ++ [.word "type", .word name] ++ lead
        ++ boundList (full && colon) (bounds.spell full) trailing
        ++ led (Token.marks "=") (type.spell full)
        ++ conditions ++ Token.marks ";"
  | _, .foreignTypeItem attributes visibility name generics =>
      let (lead, conditions) := generics.spell full
      (attributes.spell full).flatten ++ visibility.tokens ++ [.word "type", .word name] ++ lead
        ++ conditions ++ Token.marks ";"
  | _, .unionItem attributes visibility name generics fields =>
      let (lead, conditions) := generics.spell full
      (attributes.spell full).flatten ++ visibility.tokens ++ [.word "union", .word name] ++ lead
        ++ conditions ++ (fields.spell full)
  | _, .useItem attributes visibility leading tree =>
      (attributes.spell full).flatten ++ visibility.tokens ++ word "use" ++ marksIf leading "::"
        ++ (tree.spell full) ++ Token.marks ";"
  | _, .verbatimItem tokens => tokens
  | _, .usePath name tree => word name ++ Token.marks "::" ++ (tree.spell full)
  | _, .useName name => word name
  | _, .useRename name rename => [.word name, .word "as", .word rename]
  | _, .useAll => Token.marks "*"
  | _, .useGroup trees trailing => braced (commaSeparated (trees.spell full) trailing)

/-- The tokens of a node as they are printed: nothing that is empty is introduced. -/
def Node.tokens {c : Category} (node : Node c) : Spelled c :=
  node.spell false

/-- The text of a type. -/
def Node.typeText (type : Node .type) : String :=
  Token.textOf type.tokens

/-- The text of a pattern. -/
def Node.patternText (pattern : Node .pattern) : String :=
  Token.textOf pattern.tokens

/-- Are two items the same declaration? -/
def Node.sameItem (left right : Node .item) : Bool :=
  left.spell true == right.spell true

/-- Are two attributes the same? -/
def Node.sameAttribute (left right : Node .attribute) : Bool :=
  left.spell true == right.spell true

end Scaffold.Source
