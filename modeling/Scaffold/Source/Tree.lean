import Scaffold.Source.Token

/-!
Contract: the syntax trees of source text.

Owns:
- the categories of nodes and the one indexed family that covers every node form;
- the parts that hold no trees: plain paths, visibilities, macro invocations, operators.

The category of a node is in its type, so a reference to a node of the wrong category cannot
be written. A list or an optional part is a node of its own category, `many` or `maybe`, so
that a function on trees is one structural recursion. Where two spellings of a part differ in
the tree, the tree keeps the difference: a `trailing` flag tells that a separator follows
the last element.

Generic parameters and arguments stand in the order of the source. They are printed with their
lifetimes in front of all others.

A grouped type shows nothing of its group: macros put such groups around types that they are
handed. No text is read as one.
-/

namespace Scaffold.Source

/-- A path of names alone. -/
structure PlainPath where
  leading : Bool
  names : List String
  deriving DecidableEq, Repr

/-- Who may use a declaration. -/
inductive Visibility where
  | inherited
  | everywhere
  | within (spelledIn : Bool) (path : PlainPath)
  deriving DecidableEq, Repr

/-- A macro invocation; its arguments stay tokens. -/
structure Invocation where
  path : PlainPath
  delimiter : Delimiter
  body : List Token
  deriving DecidableEq, Repr

/-- The calling convention of a function or a foreign block. -/
inductive Convention where
  | standard
  | named (literal : String)
  deriving DecidableEq, Repr

/-- Operators in front of their operand. -/
inductive PrefixOperator where
  | dereference
  | not
  | negate
  | borrow
  | borrowMutable
  | addressConstant
  | addressMutable
  deriving DecidableEq, Repr

/-- What stands in front of a block that is an expression. -/
inductive BlockHead where
  | plain (label : Option String)
  | asynchronous (moves : Bool)
  | constant
  | unchecked
  | attempt
  | loop (label : Option String)
  deriving DecidableEq, Repr

/-- Ways to leave a block with a value. -/
inductive Jump where
  | exit (label : Option String)
  | result
  | emission
  deriving DecidableEq, Repr

/-- What stands in front of the parameters of a closure. -/
structure ClosureHead where
  isConst : Bool
  isStatic : Bool
  isAsync : Bool
  moves : Bool
  deriving DecidableEq, Repr

/-- What stands in front of the name of a function. -/
structure FunctionHead where
  isConst : Bool
  isAsync : Bool
  isUnchecked : Bool
  convention : Option Convention
  deriving DecidableEq, Repr

/-- The categories of nodes. -/
inductive Category where
  | attribute
  | path
  | segment
  | segmentArguments
  | argument
  | bound
  | binder
  | type
  | bareParameter
  | genericParameter
  | predicate
  | generics
  | expr
  | block
  | arm
  | fieldValue
  | statement
  | pattern
  | fieldPattern
  | parameter
  | signature
  | field
  | fields
  | variant
  | item
  | useTree
  | many (element : Category)
  | maybe (element : Category)
  deriving DecidableEq, Repr

/-- The syntax trees of each category. -/
inductive Node : Category → Type where
  | nil {c : Category} : Node (.many c)
  | cons {c : Category} (head : Node c) (tail : Node (.many c)) : Node (.many c)
  | absent {c : Category} : Node (.maybe c)
  | present {c : Category} (node : Node c) : Node (.maybe c)
  -- attributes
  | pathAttribute (inner : Bool) (path : PlainPath) : Node .attribute
  | listAttribute (inner : Bool) (path : PlainPath) (delimiter : Delimiter)
      (body : List Token) : Node .attribute
  | valueAttribute (inner : Bool) (path : PlainPath) (value : Node .expr) : Node .attribute
  -- paths
  | simplePath (leading : Bool) (segments : Node (.many .segment)) : Node .path
  | qualifiedPath (owner : Node .type) (trait : Node (.maybe .path))
      (segments : Node (.many .segment)) : Node .path
  | pathSegment (name : String) (arguments : Node .segmentArguments) : Node .segment
  | noArguments : Node .segmentArguments
  | angleArguments (turbofish : Bool) (arguments : Node (.many .argument))
      (trailing : Bool) : Node .segmentArguments
  | callArguments (inputs : Node (.many .type)) (trailing : Bool)
      (output : Node (.maybe .type)) : Node .segmentArguments
  | lifetimeArgument (name : String) : Node .argument
  | typeArgument (type : Node .type) : Node .argument
  | constArgument (value : Node .expr) : Node .argument
  | typeBinding (name : String) (arguments : Node .segmentArguments)
      (type : Node .type) : Node .argument
  | constBinding (name : String) (arguments : Node .segmentArguments)
      (value : Node .expr) : Node .argument
  | boundConstraint (name : String) (arguments : Node .segmentArguments)
      (bounds : Node (.many .bound)) (trailing : Bool) : Node .argument
  -- bounds and generics
  | traitBound (parenthesized : Bool) (optional : Bool) (binder : Node (.maybe .binder))
      (path : Node .path) : Node .bound
  | lifetimeBound (name : String) : Node .bound
  | captureBound (names : List (List Token)) (trailing : Bool) : Node .bound
  | verbatimBound (tokens : List Token) : Node .bound
  | forBinder (parameters : Node (.many .genericParameter)) (trailing : Bool) : Node .binder
  | lifetimeParameter (attributes : Node (.many .attribute)) (name : String) (colon : Bool)
      (bounds : List String) (trailing : Bool) : Node .genericParameter
  | typeParameter (attributes : Node (.many .attribute)) (name : String) (colon : Bool)
      (bounds : Node (.many .bound)) (trailing : Bool)
      (default : Node (.maybe .type)) : Node .genericParameter
  | constParameter (attributes : Node (.many .attribute)) (name : String)
      (type : Node .type) (default : Node (.maybe .expr)) : Node .genericParameter
  | lifetimePredicate (name : String) (bounds : List String)
      (trailing : Bool) : Node .predicate
  | typePredicate (binder : Node (.maybe .binder)) (type : Node .type)
      (bounds : Node (.many .bound)) (trailing : Bool) : Node .predicate
  | genericList (bracketed : Bool) (parameters : Node (.many .genericParameter))
      (trailing : Bool) (conditions : Node (.maybe (.many .predicate)))
      (conditionsTrailing : Bool) : Node .generics
  -- types
  | arrayType (element : Node .type) (length : Node .expr) : Node .type
  | functionType (binder : Node (.maybe .binder)) (isUnchecked : Bool)
      (convention : Option Convention) (parameters : Node (.many .bareParameter))
      (trailing : Bool) (output : Node (.maybe .type)) : Node .type
  | groupedType (type : Node .type) : Node .type
  | implType (bounds : Node (.many .bound)) (trailing : Bool) : Node .type
  | inferredType : Node .type
  | invocationType (invocation : Invocation) : Node .type
  | neverType : Node .type
  | parenthesizedType (type : Node .type) : Node .type
  | pathType (path : Node .path) : Node .type
  | pointerType (mutable : Bool) (type : Node .type) : Node .type
  | referenceType (lifetime : Option String) (mutable : Bool) (type : Node .type) : Node .type
  | sliceType (element : Node .type) : Node .type
  | objectType (spelledDyn : Bool) (bounds : Node (.many .bound))
      (trailing : Bool) : Node .type
  | tupleType (elements : Node (.many .type)) (trailing : Bool) : Node .type
  | verbatimType (tokens : List Token) : Node .type
  | inputParameter (attributes : Node (.many .attribute)) (name : Option String)
      (type : Node .type) : Node .bareParameter
  | inputVariadic (attributes : Node (.many .attribute))
      (name : Option String) : Node .bareParameter
  -- expressions
  | attributedExpr (attributes : Node (.many .attribute)) (expr : Node .expr) : Node .expr
  | arrayExpr (elements : Node (.many .expr)) (trailing : Bool) : Node .expr
  | assignExpr (target : Node .expr) (value : Node .expr) : Node .expr
  | awaitExpr (expr : Node .expr) : Node .expr
  | binaryExpr (left : Node .expr) (operator : String) (right : Node .expr) : Node .expr
  | blockExpr (head : BlockHead) (block : Node .block) : Node .expr
  | callExpr (callee : Node .expr) (arguments : Node (.many .expr))
      (trailing : Bool) : Node .expr
  | castExpr (expr : Node .expr) (type : Node .type) : Node .expr
  | closureExpr (binder : Node (.maybe .binder)) (head : ClosureHead)
      (inputs : Node (.many .pattern)) (trailing : Bool) (output : Node (.maybe .type))
      (body : Node .expr) : Node .expr
  | continueExpr (label : Option String) : Node .expr
  | fieldExpr (expr : Node .expr) (member : String) : Node .expr
  | forExpr (label : Option String) (pattern : Node .pattern) (source : Node .expr)
      (block : Node .block) : Node .expr
  | ifExpr (condition : Node .expr) (block : Node .block)
      (otherwise : Node (.maybe .expr)) : Node .expr
  | indexExpr (expr : Node .expr) (index : Node .expr) : Node .expr
  | inferredExpr : Node .expr
  | jumpExpr (jump : Jump) (value : Node (.maybe .expr)) : Node .expr
  | letExpr (pattern : Node .pattern) (value : Node .expr) : Node .expr
  | literalExpr (text : String) : Node .expr
  | invocationExpr (invocation : Invocation) : Node .expr
  | matchExpr (scrutinee : Node .expr) (inner : Node (.many .attribute))
      (arms : Node (.many .arm)) : Node .expr
  | methodExpr (receiver : Node .expr) (method : String)
      (turbofish : Node .segmentArguments) (arguments : Node (.many .expr))
      (trailing : Bool) : Node .expr
  | parenthesizedExpr (expr : Node .expr) : Node .expr
  | pathExpr (path : Node .path) : Node .expr
  | prefixExpr (operator : PrefixOperator) (expr : Node .expr) : Node .expr
  | rangeExpr (start : Node (.maybe .expr)) (closed : Bool)
      (stop : Node (.maybe .expr)) : Node .expr
  | repeatExpr (element : Node .expr) (length : Node .expr) : Node .expr
  | structExpr (path : Node .path) (fields : Node (.many .fieldValue)) (trailing : Bool)
      (rest : Node (.maybe (.maybe .expr))) : Node .expr
  | tryExpr (expr : Node .expr) : Node .expr
  | tupleExpr (elements : Node (.many .expr)) (trailing : Bool) : Node .expr
  | whileExpr (label : Option String) (condition : Node .expr)
      (block : Node .block) : Node .expr
  | verbatimExpr (tokens : List Token) : Node .expr
  | matchArm (attributes : Node (.many .attribute)) (pattern : Node .pattern)
      (guard : Node (.maybe .expr)) (body : Node .expr) (comma : Bool) : Node .arm
  | memberValue (attributes : Node (.many .attribute)) (member : String) (colon : Bool)
      (value : Node .expr) : Node .fieldValue
  -- blocks
  | blockBody (inner : Node (.many .attribute)) (statements : Node (.many .statement)) : Node .block
  | letStatement (attributes : Node (.many .attribute)) (pattern : Node .pattern)
      (value : Node (.maybe .expr)) (otherwise : Node (.maybe .block)) : Node .statement
  | itemStatement (item : Node .item) : Node .statement
  | exprStatement (expr : Node .expr) (semicolon : Bool) : Node .statement
  | invocationStatement (attributes : Node (.many .attribute)) (invocation : Invocation)
      (semicolon : Bool) : Node .statement
  | emptyStatement : Node .statement
  -- patterns
  | attributedPattern (attributes : Node (.many .attribute))
      (pattern : Node .pattern) : Node .pattern
  | exprPattern (expr : Node .expr) : Node .pattern
  | namePattern (byReference : Bool) (mutable : Bool) (name : String)
      (subpattern : Node (.maybe .pattern)) : Node .pattern
  | invocationPattern (invocation : Invocation) : Node .pattern
  | orPattern (leading : Bool) (cases : Node (.many .pattern)) : Node .pattern
  | parenthesizedPattern (pattern : Node .pattern) : Node .pattern
  | rangePattern (start : Node (.maybe .expr)) (closed : Bool)
      (stop : Node (.maybe .expr)) : Node .pattern
  | referencePattern (mutable : Bool) (pattern : Node .pattern) : Node .pattern
  | restPattern : Node .pattern
  | slicePattern (elements : Node (.many .pattern)) (trailing : Bool) : Node .pattern
  | structPattern (path : Node .path) (fields : Node (.many .fieldPattern)) (trailing : Bool)
      (rest : Node (.maybe (.many .attribute))) : Node .pattern
  | tuplePattern (elements : Node (.many .pattern)) (trailing : Bool) : Node .pattern
  | tupleStructPattern (path : Node .path) (elements : Node (.many .pattern))
      (trailing : Bool) : Node .pattern
  | typedPattern (pattern : Node .pattern) (type : Node .type) : Node .pattern
  | wildcardPattern : Node .pattern
  | verbatimPattern (tokens : List Token) : Node .pattern
  | memberPattern (attributes : Node (.many .attribute)) (member : String) (colon : Bool)
      (pattern : Node .pattern) : Node .fieldPattern
  -- functions
  | selfParameter (attributes : Node (.many .attribute)) (reference : Option (Option String))
      (mutable : Bool) (type : Node (.maybe .type)) : Node .parameter
  | typedParameter (attributes : Node (.many .attribute)) (pattern : Node .pattern)
      (type : Node .type) : Node .parameter
  | variadicParameter (attributes : Node (.many .attribute))
      (pattern : Node (.maybe .pattern)) : Node .parameter
  | functionSignature (head : FunctionHead) (name : String) (generics : Node .generics)
      (parameters : Node (.many .parameter)) (trailing : Bool)
      (output : Node (.maybe .type)) : Node .signature
  -- data
  | namedField (attributes : Node (.many .attribute)) (visibility : Visibility)
      (name : String) (type : Node .type) : Node .field
  | positionalField (attributes : Node (.many .attribute)) (visibility : Visibility)
      (type : Node .type) : Node .field
  | namedFields (fields : Node (.many .field)) (trailing : Bool) : Node .fields
  | positionalFields (fields : Node (.many .field)) (trailing : Bool) : Node .fields
  | noFields : Node .fields
  | enumVariant (attributes : Node (.many .attribute)) (name : String) (fields : Node .fields)
      (discriminant : Node (.maybe .expr)) : Node .variant
  -- items, those of traits, implementations and foreign blocks among them
  | constItem (attributes : Node (.many .attribute)) (visibility : Visibility)
      (isDefault : Bool) (name : String) (type : Node .type)
      (value : Node (.maybe .expr)) : Node .item
  | enumItem (attributes : Node (.many .attribute)) (visibility : Visibility)
      (name : String) (generics : Node .generics) (variants : Node (.many .variant))
      (trailing : Bool) : Node .item
  | crateItem (attributes : Node (.many .attribute)) (visibility : Visibility)
      (name : String) (rename : Option String) : Node .item
  | functionItem (attributes : Node (.many .attribute)) (visibility : Visibility)
      (isDefault : Bool) (signature : Node .signature)
      (body : Node (.maybe .block)) : Node .item
  | foreignItem (attributes : Node (.many .attribute)) (isUnchecked : Bool)
      (convention : Convention) (inner : Node (.many .attribute))
      (items : Node (.many .item)) : Node .item
  | implItem (attributes : Node (.many .attribute)) (isDefault : Bool) (isUnchecked : Bool)
      (generics : Node .generics) (negative : Bool) (trait : Node (.maybe .path))
      (owner : Node .type) (inner : Node (.many .attribute))
      (items : Node (.many .item)) : Node .item
  | invocationItem (attributes : Node (.many .attribute)) (name : Option String)
      (invocation : Invocation) : Node .item
  | moduleItem (attributes : Node (.many .attribute)) (visibility : Visibility)
      (isUnchecked : Bool) (name : String) (inner : Node (.many .attribute))
      (items : Node (.maybe (.many .item))) : Node .item
  | staticItem (attributes : Node (.many .attribute)) (visibility : Visibility)
      (mutable : Bool) (name : String) (type : Node .type)
      (value : Node (.maybe .expr)) : Node .item
  | structItem (attributes : Node (.many .attribute)) (visibility : Visibility)
      (name : String) (generics : Node .generics) (fields : Node .fields) : Node .item
  | traitItem (attributes : Node (.many .attribute)) (visibility : Visibility)
      (isUnchecked : Bool) (isAuto : Bool) (name : String) (generics : Node .generics)
      (colon : Bool) (bounds : Node (.many .bound)) (trailing : Bool)
      (inner : Node (.many .attribute)) (items : Node (.many .item)) : Node .item
  | traitAliasItem (attributes : Node (.many .attribute)) (visibility : Visibility)
      (name : String) (generics : Node .generics) (bounds : Node (.many .bound))
      (trailing : Bool) : Node .item
  | typeItem (attributes : Node (.many .attribute)) (visibility : Visibility)
      (name : String) (generics : Node .generics) (type : Node .type) : Node .item
  | associatedTypeItem (attributes : Node (.many .attribute)) (visibility : Visibility)
      (isDefault : Bool) (name : String) (generics : Node .generics) (colon : Bool)
      (bounds : Node (.many .bound)) (trailing : Bool)
      (type : Node (.maybe .type)) : Node .item
  | foreignTypeItem (attributes : Node (.many .attribute)) (visibility : Visibility)
      (name : String) (generics : Node .generics) : Node .item
  | unionItem (attributes : Node (.many .attribute)) (visibility : Visibility)
      (name : String) (generics : Node .generics) (fields : Node .fields) : Node .item
  | useItem (attributes : Node (.many .attribute)) (visibility : Visibility)
      (leading : Bool) (tree : Node .useTree) : Node .item
  | verbatimItem (tokens : List Token) : Node .item
  | usePath (name : String) (tree : Node .useTree) : Node .useTree
  | useName (name : String) : Node .useTree
  | useRename (name : String) (rename : String) : Node .useTree
  | useAll : Node .useTree
  | useGroup (trees : Node (.many .useTree)) (trailing : Bool) : Node .useTree

namespace Node

/-- A list of nodes as one node. -/
def ofList {c : Category} : List (Node c) → Node (.many c)
  | [] => .nil
  | head :: tail => .cons head (ofList tail)

/-- What the elements of a node are: those of a list, none of any other node. -/
def Elements : Category → Type
  | .many c => List (Node c)
  | _ => Unit

/-- No elements. -/
def Elements.none : (c : Category) → Elements c
  | .many _ => []
  | .attribute | .path | .segment | .segmentArguments | .argument | .bound | .binder | .type
  | .bareParameter | .genericParameter | .predicate | .generics | .expr | .block | .arm
  | .fieldValue | .statement | .pattern | .fieldPattern | .parameter | .signature | .field
  | .fields | .variant | .item | .useTree | .maybe _ => ()

/-- The elements of a node of any category. -/
def elements : {c : Category} → Node c → Elements c
  | _, .nil => []
  | _, .cons head tail => head :: (elements tail : List _)
  | c, _ => Elements.none c

/-- The elements of a list node. -/
def toList {c : Category} (nodes : Node (.many c)) : List (Node c) :=
  nodes.elements

/-- An optional node as one node. -/
def ofOption {c : Category} : Option (Node c) → Node (.maybe c)
  | none => .absent
  | some node => .present node

/-- The node of an optional part. -/
def toOption {c : Category} : Node (.maybe c) → Option (Node c)
  | .absent => none
  | .present node => some node

/-- Is the list without elements? -/
def isNil {c : Category} : Node (.many c) → Bool
  | .nil => true
  | .cons _ _ => false

/-- Is the optional part there? -/
def isPresent {c : Category} : Node (.maybe c) → Bool
  | .absent => false
  | .present _ => true

@[simp] theorem toList_ofList
    {c : Category}
    (nodes : List (Node c)) :
    (ofList nodes).toList = nodes := by
  induction nodes with
  | nil => rfl
  | cons head tail inductionHypothesis => exact congrArg (head :: ·) inductionHypothesis

@[simp] theorem toOption_ofOption
    {c : Category}
    (node : Option (Node c)) :
    (ofOption node).toOption = node := by
  cases node <;> rfl

/-- Is the generic argument or parameter a lifetime? -/
def isLifetime : {c : Category} → Node c → Bool
  | _, .lifetimeArgument _ => true
  | _, .lifetimeParameter _ _ _ _ _ => true
  | _, _ => false

/-- What stands for the elements of a list in the order in which they are printed: lifetimes
first. -/
def lifetimesFirst
    {c : Category}
    {α : Type}
    (nodes : Node (.many c))
    (rows : List α) :
    List α :=
  let marked := (nodes.toList.map isLifetime).zip rows
  (marked.filter Prod.fst ++ marked.filter fun row => !row.1).map Prod.snd

/-- Does a separator follow the last element of a list, with lifetimes first, where `trailing`
tells if one follows the last element of the source? It does if one followed it there. -/
def endsSeparated
    {c : Category}
    (nodes : Node (.many c))
    (trailing : Bool) :
    Bool :=
  let marks := nodes.toList.map isLifetime
  trailing || (marks.any (!·) && marks.getLast? == some true)

/-- The attributes of an expression, and the expression without them. -/
def splitAttributes : Node .expr → Node (.many .attribute) × Node .expr
  | .attributedExpr attributes expr => (attributes, expr)
  | expr => (.nil, expr)

/-- The concatenation of two list nodes. -/
def append {c : Category} (left right : Node (.many c)) : Node (.many c) :=
  ofList (left.toList ++ right.toList)

/-- Put attributes in front of an expression; those that it has come behind them. One that is
kept as its tokens takes none. -/
def withAttributes
    (expr : Node .expr)
    (attributes : Node (.many .attribute)) :
    Node .expr :=
  match expr with
  | .verbatimExpr _ => expr
  | _ =>
      if attributes.isNil then expr
      else
        let (own, bare) := expr.splitAttributes
        .attributedExpr (attributes.append own) bare

end Node

end Scaffold.Source
