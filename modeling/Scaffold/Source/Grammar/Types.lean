import Scaffold.Source.Grammar.Names

/-!
Contract: the grammar of paths, bounds, generics and types.

Owns:
- paths with generic arguments, and paths qualified by a type;
- bounds, generic parameters and the conditions on them;
- types.

Arguments in parentheses stand only in trait bounds: a path that is a type never takes any.
-/

namespace Scaffold.Source.Grammar

open Source.Parser

/-- A path as it is read, segment by segment. -/
structure PathParts where
  leading : Bool
  segments : List (String × Node .segmentArguments)

/-- The segments of a path as one node. -/
def segmentNodes (segments : List (String × Node .segmentArguments)) :
    Node (.many .segment) :=
  .ofList (segments.map fun segment => .pathSegment segment.1 segment.2)

namespace PathParts

/-- The path as a node. -/
def toNode (path : PathParts) : Node .path :=
  .simplePath path.leading (segmentNodes path.segments)

/-- Does a segment have no arguments? -/
def isBare : Node .segmentArguments → Bool
  | .noArguments => true
  | .angleArguments _ _ _ => false
  | .callArguments _ _ _ => false

/-- The path as one of names alone, if it is one. -/
def plain? (path : PathParts) : Option PlainPath :=
  if path.segments.all fun segment => isBare segment.2 then
    some ⟨path.leading, path.segments.map Prod.fst⟩
  else none

/-- The path with new arguments at its last segment. -/
def withLastArguments
    (path : PathParts)
    (arguments : Node .segmentArguments) :
    PathParts :=
  match path.segments.reverse with
  | (name, _) :: before => { path with segments := ((name, arguments) :: before).reverse }
  | [] => path

/-- Does the last segment have no arguments? -/
def endsBare (path : PathParts) : Bool :=
  match path.segments.reverse with
  | (_, arguments) :: _ => isBare arguments
  | [] => false

end PathParts

/-- Read a block in braces without inner attributes. -/
def plainBlock (grammar : Grammar) : Parser (Node .block) :=
  inside .brace do
    return .blockBody .nil (← grammar.statements)

/-- Read a block in braces with its inner attributes. -/
def attributedBlock (grammar : Grammar) : Parser (Node .block) :=
  inside .brace do
    let inner ← innerAttributes grammar
    return .blockBody inner (← grammar.statements)

/-- Read a constant that stands for itself among generic arguments: a literal or a block, or a
name where a default is given. -/
def constValue (grammar : Grammar) : Parser (Node .expr) := do
  if ← peek atLiteral then
    return .literalExpr (← literal)
  else if ← peek atBrace then
    return .blockExpr (.plain none) (← attributedBlock grammar)
  else
    let name ← identifier
    return .pathExpr (.simplePath false (.cons (.pathSegment name .noArguments) .nil))

/-- Read a return type, if an arrow is ahead. -/
def returnType
    (grammar : Grammar)
    (allowPlus : Bool) :
    Parser (Node (.maybe .type)) := do
  if ← optionalMarks "->" then
    return .present (← grammar.type allowPlus)
  else
    return .absent

/-- Read arguments in parentheses with their return type. -/
def callArguments (grammar : Grammar) : Parser (Node .segmentArguments) := do
  let inputs ← inside .parenthesis (commaList (grammar.type true))
  let result ← returnType grammar false
  return .callArguments (.ofList inputs.elements) inputs.trailing result

/-! ## Bounds, over a reader of paths -/

/-- Read the names that an opaque type captures. -/
def captureBound : Parser (Node .bound) := do
  word "use"
  marks "<"
  let names ← separatedTo (atMarks ">") "," do
    if ← peek atLifetime then
      return Token.lifetime (← lifetime)
    else
      require (← peek fun tokens => atIdentifier tokens || atWord "Self" tokens)
      return [.word (← anyWord)]
  marks ">"
  return .captureBound names.elements names.trailing

/-- What a bound may be besides a trait or a lifetime. -/
structure BoundRules where
  capture : Bool
  constness : Bool
  deriving DecidableEq, Repr

/-- Nothing but traits and lifetimes. -/
def BoundRules.strict : BoundRules := ⟨false, false⟩

/-- The bounds of parameters and associated types. -/
def BoundRules.declared : BoundRules := ⟨false, true⟩

/-- The bounds of opaque types. -/
def BoundRules.opaqueType : BoundRules := ⟨true, true⟩

/-- Read the constness that a bound asks for, if it does: always, or only where the parameter
itself is constant, in brackets. -/
def boundConstness : Parser Bool := do
  if ← peek atBracket then
    inside .bracket (word "const")
    return true
  else
    optionalWord "const"

/-- Read the trait of a bound. The answer is nothing for a bound on constness, whose tokens
are kept as they stand. -/
def traitBound
    (grammar : Grammar)
    (path : Parser PathParts)
    (binder : Parser (Node .binder))
    (rules : BoundRules)
    (parenthesized : Bool) :
    Parser (Option (Node .bound)) := do
  let outer ← optionally (atWord "for") binder
  let constant ← boundConstness
  require (!constant || rules.constness)
  let optionalTrait ← optionalMarks "?"
  let late ←
    if outer.isNone && optionalTrait then optionally (atWord "for") binder else pure none
  let parts ← path
  let called ← peek fun tokens =>
    atParenthesis tokens || (atMarks "::" tokens && third atParenthesis tokens)
  let parts ←
    if parts.endsBare && called then do
      let _ ← optionalMarks "::"
      pure (parts.withLastArguments (← callArguments grammar))
    else pure parts
  let lifetimes := outer <|> late
  require (!(lifetimes.isSome && optionalTrait))
  if constant then
    return none
  else
    return some (.traitBound parenthesized optionalTrait (.ofOption lifetimes) parts.toNode)

/-- Read one bound. -/
def boundWith
    (grammar : Grammar)
    (path : Parser PathParts)
    (binder : Parser (Node .binder))
    (rules : BoundRules) :
    Parser (Node .bound) := do
  if ← peek atLifetime then
    return .lifetimeBound (← lifetime)
  else if ← peek (atWord "use") then
    let capture ← captureBound
    require rules.capture
    return capture
  else
    let start ← get
    let read ←
      if ← peek atParenthesis then
        inside .parenthesis (traitBound grammar path binder rules true)
      else
        traitBound grammar path binder rules false
    match read with
    | some bound => return bound
    | none => return .verbatimBound (← readSince start)

/-! ## Paths -/

/-- The words that are segments without arguments. -/
def bareSegmentWords : List String :=
  ["super", "self", "crate", "try"]

/-- Split a type that may turn out to be the name of a binding into that name and its
arguments. -/
def bindingName? : Node .type → Option (String × Node .segmentArguments)
  | .pathType (.simplePath false (.cons (.pathSegment name .noArguments) .nil)) =>
      some (name, .noArguments)
  | .pathType
      (.simplePath false
        (.cons (.pathSegment name (.angleArguments turbofish arguments trailing)) .nil)) =>
      some (name, .angleArguments turbofish arguments trailing)
  | _ => none

/-- Read one generic argument. `bound` reads the bounds of a constrained binding. -/
def genericArgument
    (grammar : Grammar)
    (bound : Parser (Node .bound)) :
    Parser (Node .argument) := do
  if ← peek (fun tokens => atLifetime tokens && !second (atMarks "+") tokens) then
    return .lifetimeArgument (← lifetime)
  else if ← peek (fun tokens => atLiteral tokens || atBrace tokens) then
    return .constArgument (← constValue grammar)
  else
    let type ← grammar.type true
    match bindingName? type with
    | none => return .typeArgument type
    | some (name, arguments) =>
        if ← optionalMarks "=" then
          if ← peek (fun tokens => atLiteral tokens || atBrace tokens) then
            return .constBinding name arguments (← constValue grammar)
          else
            return .typeBinding name arguments (← grammar.type true)
        else if ← optionalMarks ":" then
          let bounds ← separatedWhile (atAnyMarks [",", ">"]) "+" bound
          return .boundConstraint name arguments (.ofList bounds.elements) bounds.trailing
        else
          return .typeArgument type

/-- Read generic arguments in angle brackets. -/
def angleArguments
    (grammar : Grammar)
    (bound : Parser (Node .bound)) :
    Parser (Node .segmentArguments) := do
  let turbofish ← optionalMarks "::"
  marks "<"
  let list ← separatedTo (atMarks ">") "," (genericArgument grammar bound)
  marks ">"
  return .angleArguments turbofish (.ofList list.elements) list.trailing

/-- Read one segment of a path. Among expressions its arguments need a colon pair in front,
since an angle bracket there is an operator. -/
def pathSegment
    (grammar : Grammar)
    (bound : Parser (Node .bound))
    (amongExprs : Bool) :
    Parser (String × Node .segmentArguments) := do
  if ← peek (fun tokens => bareSegmentWords.any fun text => atWord text tokens) then
    return (← anyWord, .noArguments)
  else
    let name ← if ← peek (atWord "Self") then anyWord else identifier
    let angled ← peek fun tokens =>
      (!amongExprs && atMarks "<" tokens && !atMarks "<=" tokens && !atMarks "<<=" tokens)
        || (atMarks "::" tokens && third (atMarks "<") tokens)
    if angled then
      return (name, ← angleArguments grammar bound)
    else
      return (name, .noArguments)

/-- Read the segments of a path. A colon pair in front of parentheses is left unread. -/
def pathSegments
    (grammar : Grammar)
    (bound : Parser (Node .bound))
    (amongExprs : Bool) :
    Parser (List (String × Node .segmentArguments)) := do
  let first ← pathSegment grammar bound amongExprs
  let others ← repeatWhile (fun tokens => atMarks "::" tokens && !third atParenthesis tokens) do
    marks "::"
    pathSegment grammar bound amongExprs
  return first :: others

/-- Read a path over a reader of bounds. -/
def pathWith
    (grammar : Grammar)
    (bound : Parser (Node .bound))
    (amongExprs : Bool) :
    Parser PathParts := do
  let leading ← optionalMarks "::"
  return ⟨leading, ← pathSegments grammar bound amongExprs⟩

/-! ## Generic parameters, over a reader of bounds -/

/-- Read a lifetime parameter behind its attributes. -/
def lifetimeParameter (attributes : Node (.many .attribute)) :
    Parser (Node .genericParameter) := do
  let name ← lifetime
  if ← optionalMarks ":" then
    let bounds ← separatedWhile (atAnyMarks [",", ">"]) "+" lifetime
    return .lifetimeParameter attributes name true bounds.elements bounds.trailing
  else
    return .lifetimeParameter attributes name false [] false

/-- Read a type parameter behind its attributes. -/
def typeParameter
    (grammar : Grammar)
    (bound : Parser (Node .bound))
    (attributes : Node (.many .attribute)) :
    Parser (Node .genericParameter) := do
  let name ← identifier
  let colon ← optionalMarks ":"
  let bounds ←
    if colon then separatedWhile (atAnyMarks [",", ">", "="]) "+" bound
    else pure ⟨[], false⟩
  let default ←
    if ← optionalMarks "=" then some <$> grammar.type true else pure none
  return .typeParameter attributes name colon (.ofList bounds.elements) bounds.trailing
    (.ofOption default)

/-- Read a constant parameter behind its attributes. -/
def constParameter
    (grammar : Grammar)
    (attributes : Node (.many .attribute)) :
    Parser (Node .genericParameter) := do
  word "const"
  let name ← identifier
  marks ":"
  let type ← grammar.type true
  let default ←
    if ← optionalMarks "=" then some <$> constValue grammar else pure none
  return .constParameter attributes name type (.ofOption default)

/-- Read one generic parameter. -/
def genericParameter
    (grammar : Grammar)
    (bound : Parser (Node .bound)) :
    Parser (Node .genericParameter) := do
  let attributes ← outerAttributes grammar
  if ← peek atLifetime then
    lifetimeParameter attributes
  else if ← peek (atWord "const") then
    constParameter grammar attributes
  else
    typeParameter grammar bound attributes

/-- Read the parameters that a bound or type is general in. -/
def binderWith
    (grammar : Grammar)
    (bound : Parser (Node .bound)) :
    Parser (Node .binder) := do
  word "for"
  marks "<"
  let list ← separatedTo (atMarks ">") "," (genericParameter grammar bound)
  marks ">"
  return .forBinder (.ofList list.elements) list.trailing

/-! ## Tying bounds, paths and binders

Bounds hold paths and binders, and those hold bounds; each turn around this circle goes down
one step in `depth`. -/

/-- Read a bound, at most `depth` bounds deep. -/
def boundTo
    (grammar : Grammar)
    (rules : BoundRules) :
    Nat → Parser (Node .bound)
  | 0 => refuse
  | depth + 1 =>
      boundWith grammar
        (pathWith grammar (boundTo grammar .declared depth) false)
        (binderWith grammar (boundTo grammar .declared depth))
        rules

/-- Read a bound. -/
def bound
    (grammar : Grammar)
    (rules : BoundRules) :
    Parser (Node .bound) := do
  boundTo grammar rules ((← get).length + 1)

/-- Read a path. -/
def path
    (grammar : Grammar)
    (amongExprs : Bool) :
    Parser PathParts :=
  pathWith grammar (bound grammar .declared) amongExprs

/-- Read a binder. -/
def binder (grammar : Grammar) : Parser (Node .binder) :=
  binderWith grammar (bound grammar .declared)

/-- A path that may be qualified by a type. -/
inductive QualifiablePath where
  | simple (parts : PathParts)
  | qualified (owner : Node .type) (trait : Option PathParts)
      (segments : List (String × Node .segmentArguments))

/-- The path as a node. -/
def QualifiablePath.toNode : QualifiablePath → Node .path
  | .simple parts => parts.toNode
  | .qualified owner trait segments =>
      .qualifiedPath owner (.ofOption (trait.map PathParts.toNode)) (segmentNodes segments)

/-- The path as one of names alone, if it is one. -/
def QualifiablePath.plain? : QualifiablePath → Option PlainPath
  | .simple parts => parts.plain?
  | .qualified _ _ _ => none

/-- Read a path that may be qualified by a type. -/
def qualifiablePath
    (grammar : Grammar)
    (amongExprs : Bool) :
    Parser QualifiablePath := do
  if ← peek (atMarks "<") then
    marks "<"
    let owner ← grammar.type true
    let trait ←
      if ← optionalWord "as" then some <$> path grammar false else pure none
    marks ">"
    marks "::"
    let bounds := bound grammar .declared
    let first ← pathSegment grammar bounds amongExprs
    let others ← repeatWhile (atMarks "::") do
      marks "::"
      pathSegment grammar bounds amongExprs
    return .qualified owner trait (first :: others)
  else
    return .simple (← path grammar amongExprs)

/-- Is a bang ahead that belongs to a macro and not to a comparison? -/
def atBang : Test := fun tokens =>
  atMarks "!" tokens && !atMarks "!=" tokens

/-! ## Types -/

/-- Is another bound ahead behind a plus sign? -/
def atNextBound (rules : BoundRules) : Test := fun tokens =>
  atAnyWord tokens || atMarks "::" tokens || atMarks "?" tokens || atLifetime tokens
    || atParenthesis tokens
    || (rules.constness && atBracket tokens)

/-- Read the bounds behind a plus sign that was read, as long as plus signs follow; `more`
tells that a bound is ahead. -/
def boundsFrom
    (grammar : Grammar)
    (rules : BoundRules)
    (allowPlus : Bool) :
    Nat → Parser (Separated (Node .bound))
  | 0 => refuse
  | fuel + 1 => do
      let head ← bound grammar rules
      if allowPlus && (← peek (atMarks "+")) then
        marks "+"
        if ← peek (atNextBound rules) then
          return .cons head (← boundsFrom grammar rules allowPlus fuel)
        else
          return ⟨[head], true⟩
      else
        return ⟨[head], false⟩

/-- Read at least one bound, and more behind plus signs where these are allowed. -/
def bounds
    (grammar : Grammar)
    (rules : BoundRules)
    (allowPlus : Bool) :
    Parser (Separated (Node .bound)) := do
  boundsFrom grammar rules allowPlus ((← get).length + 1)

/-- Is the bound a trait? -/
def isTraitBound : Node .bound → Bool
  | .traitBound _ _ _ _ => true
  | _ => false

/-- Is the bound one whose tokens are kept as they stand? -/
def isVerbatimBound : Node .bound → Bool
  | .verbatimBound _ => true
  | _ => false

/-- Read the bounds of an object type; lifetimes alone are none. -/
def objectBounds
    (grammar : Grammar)
    (spelledDyn : Bool)
    (allowPlus : Bool) :
    Parser (Node .type) := do
  let list ← bounds grammar .strict allowPlus
  require (list.elements.any isTraitBound)
  return .objectType spelledDyn (.ofList list.elements) list.trailing

/-- Put bounds behind plus signs behind a first bound. A plus sign must have a bound behind
it. -/
def objectBehind
    (grammar : Grammar)
    (first : Node .bound) :
    Parser (Node .type) := do
  let others ← repeatWhile (atMarks "+") do
    marks "+"
    bound grammar .strict
  return .objectType false (.ofList (first :: others)) false

/-- The bound in parentheses that a type in parentheses stands for in front of a plus sign. -/
def parenthesizedBound? : Node .type → Option (Node .bound)
  | .pathType (.simplePath leading segments) =>
      some (.traitBound true false .absent (.simplePath leading segments))
  | .objectType false (.cons (.traitBound _ optional binder path) .nil) false =>
      some (.traitBound true optional binder path)
  | .objectType false (.cons other .nil) false => some other
  | _ => none

/-- Read what stands in parentheses: the empty tuple, a tuple, bounds or a type. -/
def parenthesizedType
    (grammar : Grammar)
    (allowPlus : Bool) :
    Parser (Node .type) := do
  let start ← get
  let content := start.drop 1
  if atEnd content then
    inside .parenthesis (pure ())
    return .tupleType .nil false
  else if atLifetime content then
    return .parenthesizedType (← inside .parenthesis (objectBounds grammar false true))
  else if atMarks "?" content then
    let first ← inside .parenthesis (bound grammar .strict)
    match first with
    | .traitBound _ optional binder path =>
        objectBehind grammar (.traitBound true optional binder path)
    | _ => refuse
  else
    let (list, isTuple) ← inside .parenthesis do
      let first ← grammar.type true
      let isTuple ← peek (atMarks ",")
      if isTuple then
        return (← commaListBehind first (grammar.type true), true)
      else
        return (⟨[first], false⟩, false)
    if isTuple then
      return .tupleType (.ofList list.elements) list.trailing
    else
      match list.elements with
      | [first] =>
          let plus ← peek (atMarks "+")
          match parenthesizedBound? first with
          | some bound =>
              if allowPlus && plus then objectBehind grammar bound
              else return .parenthesizedType first
          | none => return .parenthesizedType first
      | _ => refuse

/-- Read a calling convention, if one is ahead. -/
def convention : Parser (Option Convention) := do
  if ← optionalWord "extern" then
    if ← peek atString then
      return some (.named (← literal))
    else
      return some .standard
  else
    return none

/-- Read a name or underscore in front of a single colon. -/
def inputName : Parser (Option String) := do
  let named ← peek fun tokens =>
    (atIdentifier tokens || atWord "_" tokens) && second (atMarks ":") tokens
      && !second (atMarks "::") tokens
  if named then
    let name ← anyWord
    marks ":"
    return some name
  else
    return none

/-- Read one parameter of a function type. A receiver in the first place is a name only in
front of a colon, and otherwise kept as its tokens. -/
def functionTypeInput
    (grammar : Grammar)
    (attributes : Node (.many .attribute))
    (isFirst : Bool) :
    Parser (Node .bareParameter) := do
  let start ← get
  let mutableSelf := isFirst && atWord "mut" start && second (atWord "self") start
  if mutableSelf then
    word "mut"
    word "self"
    let typed ← peek fun tokens => atMarks ":" tokens && !atMarks "::" tokens
    if typed then
      marks ":"
      let _ ← grammar.type true
    return .inputParameter attributes none (.verbatimType (← readSince start))
  else
    let selfNamed := isFirst && atWord "self" start && second (atMarks ":") start
      && !second (atMarks "::") start
    let name ←
      if selfNamed then do
        word "self"
        marks ":"
        pure (some "self")
      else inputName
    let afterName ← get
    if isFirst && name.isSome && atWord "mut" afterName && second (atWord "self") afterName
        && !selfNamed then
      word "mut"
      word "self"
      return .inputParameter attributes none (.verbatimType (← readSince start))
    else
      return .inputParameter attributes name (← grammar.type true)

/-- Read the parameters of a function type up to the end of their parentheses. -/
def functionTypeInputs
    (grammar : Grammar)
    (isFirst : Bool) :
    Nat → Parser (Separated (Node .bareParameter))
  | 0 => refuse
  | fuel + 1 => do
      if ← peek atEnd then
        return ⟨[], false⟩
      else
        let attributes ← outerAttributes grammar
        let variadic ← peek fun tokens =>
          atMarks "..." tokens
            || ((atIdentifier tokens || atWord "_" tokens) && second (atMarks ":") tokens
              && third (atMarks "...") tokens)
        if variadic then
          let name ← inputName
          marks "..."
          let comma ← optionalMarks ","
          return ⟨[.inputVariadic attributes name], comma⟩
        else
          let head ← functionTypeInput grammar attributes isFirst
          if ← peek atEnd then
            return ⟨[head], false⟩
          else
            marks ","
            return .cons head (← functionTypeInputs grammar false fuel)

/-- Read a function type behind the binder that was read. -/
def functionType
    (grammar : Grammar)
    (outer : Option (Node .binder)) :
    Parser (Node .type) := do
  let isUnchecked ← optionalWord "unsafe"
  let linkage ← convention
  word "fn"
  let inputs ← inside .parenthesis do
    functionTypeInputs grammar true ((← get).length + 1)
  let result ← returnType grammar false
  return .functionType (.ofOption outer) isUnchecked linkage (.ofList inputs.elements)
    inputs.trailing result

/-- Read a path that is a type, or the bounds or macro invocation that begin with one. -/
def typeFromPath
    (grammar : Grammar)
    (outer : Option (Node .binder))
    (allowPlus : Bool) :
    Parser (Node .type) := do
  let read ← qualifiablePath grammar false
  match read with
  | .qualified _ _ _ => return .pathType read.toNode
  | .simple parts =>
      let bang ← peek atBang
      match parts.plain?, bang with
      | some plain, true => return .invocationType (← invocationBehind plain)
      | _, _ =>
          let plus ← peek (atMarks "+")
          if outer.isSome || (allowPlus && plus) then
            let first := Node.traitBound false false (.ofOption outer) parts.toNode
            if allowPlus && plus then
              marks "+"
              if ← peek (atNextBound .strict) then
                let others ← bounds grammar .strict true
                return .objectType false (.ofList (first :: others.elements)) others.trailing
              else
                return .objectType false (.cons first .nil) true
            else
              return .objectType false (.cons first .nil) false
          else
            return .pathType parts.toNode

/-- Read an array or slice type. -/
def bracketedType (grammar : Grammar) : Parser (Node .type) :=
  inside .bracket do
    let element ← grammar.type true
    if ← optionalMarks ";" then
      return .arrayType element (← grammar.expr true)
    else
      return .sliceType element

/-- Read a pointer type. -/
def pointerType (grammar : Grammar) : Parser (Node .type) := do
  marks "*"
  let mutable ← optionalWord "mut"
  if !mutable then
    word "const"
  return .pointerType mutable (← grammar.type false)

/-- Read a reference type. -/
def referenceType (grammar : Grammar) : Parser (Node .type) := do
  marks "&"
  let name ← optionalLifetime
  let mutable ← optionalWord "mut"
  return .referenceType name mutable (← grammar.type false)

/-- Read an object type behind its keyword; one with a star is kept as its tokens. -/
def dynType
    (grammar : Grammar)
    (start : List Token)
    (allowPlus : Bool) :
    Parser (Node .type) := do
  word "dyn"
  let star ← optionalMarks "*"
  let object ← objectBounds grammar true allowPlus
  if star then
    return .verbatimType (← readSince start)
  else
    return object

/-- Read an opaque type; it needs a trait among its bounds. -/
def implType
    (grammar : Grammar)
    (allowPlus : Bool) :
    Parser (Node .type) := do
  word "impl"
  let list ← bounds grammar .opaqueType allowPlus
  require (list.elements.any fun bound => isTraitBound bound || isVerbatimBound bound)
  return .implType (.ofList list.elements) list.trailing

/-- Is a construct of the compiler's own ahead? -/
def atBuiltin : Test := fun tokens =>
  atWord "builtin" tokens && second (atMarks "#") tokens

/-- Read a construct of the compiler's own, with arguments of any tokens. -/
def builtin : Parser Unit := do
  word "builtin"
  marks "#"
  let _ ← identifier
  require (← peek atParenthesis)
  let _ ← anyGroup

/-- Does a path that is a type begin here? -/
def atTypePath : Test := fun tokens =>
  atPathName tokens || atMarks "::" tokens || atMarks "<" tokens

/-- Does a function type begin here? -/
def atFunctionType : Test := fun tokens =>
  atWord "fn" tokens || atWord "unsafe" tokens || atWord "extern" tokens

/-- Read a type. -/
def readType
    (grammar : Grammar)
    (allowPlus : Bool) :
    Parser (Node .type) := do
  let start ← get
  let outer ← optionally (atWord "for") (binder grammar)
  let ahead ← get
  require (outer.isNone || atPathName ahead || atFunctionType ahead)
  if atParenthesis ahead then parenthesizedType grammar allowPlus
  else if atFunctionType ahead then functionType grammar outer
  else if atBuiltin ahead then do
    builtin
    return .verbatimType (← readSince start)
  else if atTypePath ahead then typeFromPath grammar outer allowPlus
  else if atWord "dyn" ahead then dynType grammar start allowPlus
  else if atBracket ahead then bracketedType grammar
  else if atMarks "*" ahead then pointerType grammar
  else if atMarks "&" ahead then referenceType grammar
  else if atMarks "!" ahead then do
    marks "!"
    return .neverType
  else if atWord "impl" ahead then implType grammar allowPlus
  else if atWord "_" ahead then do
    word "_"
    return .inferredType
  else if atLifetime ahead then objectBounds grammar false true
  else refuse

/-! ## Generics -/

/-- Read the generic parameters of a declaration, in angle brackets; an underscore may stand
for a parameter. -/
def angleParameters (grammar : Grammar) :
    Parser (Bool × Separated (Node .genericParameter)) := do
  if ← optionalMarks "<" then
    let list ← separatedTo (atMarks ">") "," do
      let attributes ← outerAttributes grammar
      if ← peek atLifetime then
        lifetimeParameter attributes
      else if ← peek (atWord "const") then
        constParameter grammar attributes
      else if ← peek (atWord "_") then
        word "_"
        return .typeParameter attributes "_" false .nil false .absent
      else
        typeParameter grammar (bound grammar .declared) attributes
    marks ">"
    return (true, list)
  else
    return (false, ⟨[], false⟩)

/-- Does an angle bracket here begin generic parameters, rather than a qualified path? -/
def atParameters : Test := fun tokens =>
  atMarks "<" tokens
    && (second (atMarks ">") tokens || second (atMarks "#") tokens
      || (second (fun ahead => atLifetime ahead || atIdentifier ahead) tokens
        && (third (atMarks ">") tokens || third (atMarks ",") tokens
          || (third (atMarks ":") tokens && !third (atMarks "::") tokens)
          || third (atMarks "=") tokens))
      || second (atWord "const") tokens)

/-- Does a list of conditions end here? -/
def atConditionsEnd : Test := fun tokens =>
  atEnd tokens || atBrace tokens || atMarks "," tokens || atMarks ";" tokens
    || (atMarks ":" tokens && !atMarks "::" tokens) || atMarks "=" tokens

/-- Read one condition on generic parameters. -/
def predicate (grammar : Grammar) : Parser (Node .predicate) := do
  if ← peek (fun tokens => atLifetime tokens && second (atMarks ":") tokens) then
    let name ← lifetime
    marks ":"
    let list ← separatedWhile
      (fun tokens => atConditionsEnd tokens || atMarks ":" tokens) "+" lifetime
    return .lifetimePredicate name list.elements list.trailing
  else
    let outer ← optionally (atWord "for") (binder grammar)
    let type ← grammar.type true
    marks ":"
    let list ← separatedWhile atConditionsEnd "+" (bound grammar .declared)
    return .typePredicate (.ofOption outer) type (.ofList list.elements) list.trailing

/-- The conditions of a declaration: absent, or a list that may be empty. -/
abbrev Conditions := Option (Separated (Node .predicate))

/-- Read the conditions of a declaration, if the word for them is ahead. What could be generic
parameters may not begin them. -/
def conditions (grammar : Grammar) : Parser Conditions := do
  if ← optionalWord "where" then
    require (!(← peek atParameters))
    return some (← separatedWhile atConditionsEnd "," (predicate grammar))
  else
    return none

/-- Parameters and conditions as one node. -/
def genericsNode
    (parameters : Bool × Separated (Node .genericParameter))
    (conditions : Conditions) :
    Node .generics :=
  .genericList parameters.1 (.ofList parameters.2.elements) parameters.2.trailing
    (.ofOption (conditions.map fun list => .ofList list.elements))
    (match conditions with
      | some list => list.trailing
      | none => false)

end Scaffold.Source.Grammar
