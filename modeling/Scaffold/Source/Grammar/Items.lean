import Scaffold.Source.Grammar.Expressions

/-!
Contract: the grammar of items.

Owns:
- signatures with their parameters;
- the data of structures, enumerations and unions;
- imports;
- the items of modules, traits, implementations and foreign blocks.

Forms that are read but have no tree of their own, such as a function without a body outside of
traits, are kept as the tokens they were read from, attributes included.
-/

namespace Scaffold.Source.Grammar

open Source.Parser

/-! ## Signatures -/

/-- Read the `self` that a method is called on, behind its attributes. Only one that is no
reference may have a type. -/
def selfParameter
    (grammar : Grammar)
    (attributes : Node (.many .attribute)) :
    Parser (Node .parameter) := do
  let reference ←
    if ← optionalMarks "&" then some <$> optionalLifetime else pure none
  let mutable ← optionalWord "mut"
  word "self"
  let typed ← if reference.isNone then optionalMarks ":" else pure false
  let type ← if typed then some <$> grammar.type true else pure none
  return .selfParameter attributes reference mutable (.ofOption type)

/-- Is the `self` ahead that a method is called on, with what may stand in front of it? A path
that begins with this word is no such parameter. -/
def atSelfParameter : Test := fun tokens =>
  let behindMark :=
    if atMarks "&" tokens then
      let rest := tokens.drop 1
      if atLifetime rest then Token.afterTree rest else rest
    else tokens
  let bare := if atWord "mut" behindMark then behindMark.drop 1 else behindMark
  atWord "self" bare && !second (atMarks "::") bare

/-- Read one parameter of a function behind its attributes. A name in front of an angle
bracket is a type whose own name was left out. -/
def parameter
    (grammar : Grammar)
    (attributes : Node (.many .attribute)) :
    Parser (Node .parameter) := do
  if ← peek atSelfParameter then
    selfParameter grammar attributes
  else if ← peek (fun tokens => atIdentifier tokens && second (atMarks "<") tokens) then
    return .typedParameter attributes .wildcardPattern (← grammar.type true)
  else
    let pattern ← grammar.pattern
    marks ":"
    if ← optionalMarks "..." then
      return .variadicParameter attributes (.present pattern)
    else
      return .typedParameter attributes pattern (← grammar.type true)

/-- Is the parameter the one that a method is called on? -/
def isSelfParameter : Node .parameter → Bool
  | .selfParameter _ _ _ _ => true
  | _ => false

/-- Does the parameter stand for any number of arguments? -/
def isVariadic : Node .parameter → Bool
  | .variadicParameter _ _ => true
  | _ => false

/-- Read the parameters of a function up to the end of their parentheses. Only the first one
may be `self`, and only the last one variadic. -/
def parametersFrom
    (grammar : Grammar)
    (isFirst : Bool) :
    Nat → Parser (Separated (Node .parameter))
  | 0 => refuse
  | fuel + 1 => do
      if ← peek atEnd then
        return ⟨[], false⟩
      else
        let attributes ← outerAttributes grammar
        let head ←
          if ← optionalMarks "..." then
            pure (.variadicParameter attributes .absent)
          else parameter grammar attributes
        require (isFirst || !isSelfParameter head)
        if ← peek atEnd then
          return ⟨[head], false⟩
        else
          marks ","
          if isVariadic head then
            return ⟨[head], true⟩
          else
            return .cons head (← parametersFrom grammar false fuel)

/-- Does a signature begin here? Among foreign items it may be marked safe. -/
def atSignature (allowSafe : Bool) : Test := fun tokens =>
  let behindWord (text : String) (tokens : List Token) : List Token :=
    if atWord text tokens then tokens.drop 1 else tokens
  let tokens := behindWord "async" (behindWord "const" tokens)
  let tokens :=
    if allowSafe && atWord "safe" tokens then tokens.drop 1 else behindWord "unsafe" tokens
  let tokens :=
    if atWord "extern" tokens then
      let rest := tokens.drop 1
      if atString rest then rest.drop 1 else rest
    else tokens
  atWord "fn" tokens

/-- Read a signature, and tell whether it is marked safe. -/
def signatureWith
    (grammar : Grammar)
    (allowSafe : Bool) :
    Parser (Node .signature × Bool) := do
  let isConst ← optionalWord "const"
  let isAsync ← optionalWord "async"
  let isUnchecked ← optionalWord "unsafe"
  let safe ← if allowSafe && !isUnchecked then optionalWord "safe" else pure false
  let linkage ← convention
  word "fn"
  let name ← identifier
  let generics ← angleParameters grammar
  let parameters ← inside .parenthesis do
    parametersFrom grammar true ((← get).length + 1)
  let output ← returnType grammar true
  let conditions ← conditions grammar
  let head : FunctionHead := ⟨isConst, isAsync, isUnchecked, linkage⟩
  return (.functionSignature head name (genericsNode generics conditions)
    (.ofList parameters.elements) parameters.trailing output, safe)

/-- Read a signature. -/
def signature (grammar : Grammar) : Parser (Node .signature) := do
  return (← signatureWith grammar false).1

/-! ## Data -/

/-- Read the type of an unnamed field, which may be a structure or union spelled in place. -/
def unnamedFieldType (grammar : Grammar)
    (fields : Parser (Node .fields)) :
    Parser (Node .type) := do
  let start ← get
  if atWord "struct" start || (atWord "union" start && second atBrace start) then
    let _ ← anyWord
    let _ ← fields
    return .verbatimType (← readSince start)
  else
    grammar.type true

/-- Read one named field; `nested` reads the fields of a structure spelled in place. -/
def namedFieldWith
    (grammar : Grammar)
    (nested : Parser (Node .fields)) :
    Parser (Node .field) := do
  let attributes ← outerAttributes grammar
  let access ← visibility
  if ← peek (atWord "_") then
    word "_"
    marks ":"
    return .namedField attributes access "_" (← unnamedFieldType grammar nested)
  else
    let name ← identifier
    marks ":"
    return .namedField attributes access name (← grammar.type true)

/-- Read named fields in their braces, at most `depth` levels of structures spelled in place
deep. -/
def namedFieldsTo (grammar : Grammar) : Nat → Parser (Node .fields)
  | 0 => refuse
  | depth + 1 => do
      let list ←
        inside .brace (commaList (namedFieldWith grammar (namedFieldsTo grammar depth)))
      return .namedFields (.ofList list.elements) list.trailing

/-- Read named fields in their braces. -/
def namedFields (grammar : Grammar) : Parser (Node .fields) := do
  namedFieldsTo grammar ((← get).length + 1)

/-- Read fields without names in their parentheses. -/
def positionalFields (grammar : Grammar) : Parser (Node .fields) := do
  let list ← inside .parenthesis <| commaList do
    let attributes ← outerAttributes grammar
    let access ← visibility
    return .positionalField attributes access (← grammar.type true)
  return .positionalFields (.ofList list.elements) list.trailing

/-- Read one variant of an enumeration. A visibility in front of it is dropped. -/
def variant (grammar : Grammar) : Parser (Node .variant) := do
  let attributes ← outerAttributes grammar
  let _ ← visibility
  let name ← identifier
  let fields ←
    if ← peek atBrace then namedFields grammar
    else if ← peek atParenthesis then positionalFields grammar
    else pure .noFields
  let discriminant ←
    if ← optionalMarks "=" then some <$> grammar.expr true else pure none
  return .enumVariant attributes name fields (.ofOption discriminant)

/-- Read what follows the parameters of a structure: its fields and its conditions, which stand
in front of named fields and behind others. -/
def structBody (grammar : Grammar) : Parser (Node .fields × Conditions) := do
  let before ← conditions grammar
  if before.isNone && (← peek atParenthesis) then
    let fields ← positionalFields grammar
    let behind ← conditions grammar
    marks ";"
    return (fields, behind)
  else if ← peek atBrace then
    return (← namedFields grammar, before)
  else
    marks ";"
    return (.noFields, before)

/-! ## Imports -/

/-- May a name in a tree of imports begin here? -/
def atUseName : Test := fun tokens =>
  atIdentifier tokens || atWord "self" tokens || atWord "super" tokens
    || atWord "crate" tokens || atWord "try" tokens

/-- Read the trees of a group of imports. The answer is nothing if one of them begins at the
root, which `allowRoot` permits. -/
def useTrees
    (grammar : Grammar)
    (allowRoot : Bool) :
    Nat → Parser (Option (Separated (Node .useTree)))
  | 0 => refuse
  | fuel + 1 => do
      if ← peek atEnd then
        return some ⟨[], false⟩
      else
        let fromRoot ← if allowRoot then optionalMarks "::" else pure false
        let head ← grammar.useTree (allowRoot && !fromRoot)
        if ← peek atEnd then
          match head, fromRoot with
          | some tree, false => return some ⟨[tree], false⟩
          | _, _ => return none
        else
          marks ","
          let tail ← useTrees grammar allowRoot fuel
          match head, fromRoot, tail with
          | some tree, false, some others => return some (.cons tree others)
          | _, _, _ => return none

/-- Read a tree of imported names. -/
def readUseTree
    (grammar : Grammar)
    (allowRoot : Bool) :
    Parser (Option (Node .useTree)) := do
  if ← peek atUseName then
    let name ← anyWord
    if ← optionalMarks "::" then
      return (← grammar.useTree false).map fun tree => .usePath name tree
    else if ← optionalWord "as" then
      return some (.useRename name (← identifierOrUnderscore))
    else
      return some (.useName name)
  else if ← optionalMarks "*" then
    return some .useAll
  else
    let trees ← inside .brace do
      useTrees grammar allowRoot ((← get).length + 1)
    return trees.map fun list => .useGroup (.ofList list.elements) list.trailing

/-! ## Items shared by modules, traits, implementations and foreign blocks -/

/-- What is known of an item in front of its keyword: the tokens that it begins with, its
attributes and its visibility. -/
structure ItemStart where
  tokens : List Token
  attributes : Node (.many .attribute)
  access : Visibility

/-- The tokens of the item that was read, as an item. -/
def verbatim (start : ItemStart) : Parser (Node .item) := do
  return .verbatimItem (← readSince start.tokens)

/-- A constant behind its keyword, as it is read. -/
structure ConstParts where
  name : String
  isGeneral : Bool
  type : Node .type
  value : Option (Node .expr)

/-- Read a constant. -/
def constParts (grammar : Grammar) : Parser ConstParts := do
  word "const"
  let name ← identifierOrUnderscore
  let generics ← angleParameters grammar
  marks ":"
  let type ← grammar.type true
  let value ← if ← optionalMarks "=" then some <$> grammar.expr true else pure none
  let conditions ← conditions grammar
  marks ";"
  return ⟨name, generics.1 || conditions.isSome, type, value⟩

/-- Where the conditions of a type declaration may stand. -/
inductive ConditionsPlace where
  | beforeDefinition
  | behindDefinition
  | anywhere
  deriving DecidableEq, Repr

/-- A type declaration, as it is read. -/
structure TypeParts where
  name : String
  generics : Node .generics
  colon : Bool
  bounds : Separated (Node .bound)
  type : Option (Node .type)

/-- Read a type declaration. -/
def typeParts
    (grammar : Grammar)
    (place : ConditionsPlace) :
    Parser TypeParts := do
  word "type"
  let name ← identifier
  let generics ← angleParameters grammar
  let colon ← optionalMarks ":"
  let bounds ←
    if colon then
      separatedTo (fun tokens => atWord "where" tokens || atMarks "=" tokens || atMarks ";" tokens)
        "+" (bound grammar .declared)
    else pure ⟨[], false⟩
  let before ←
    if place = .behindDefinition then pure none else conditions grammar
  let type ← if ← optionalMarks "=" then some <$> grammar.type true else pure none
  let all ←
    if place = .beforeDefinition || before.isSome then pure before else conditions grammar
  marks ";"
  return ⟨name, genericsNode generics all, colon, bounds, type⟩

/-- Read a macro invocation that is an item of a trait, an implementation or a foreign
block. -/
def memberInvocation (attributes : Node (.many .attribute)) : Parser (Node .item) := do
  let invocation ← invocation
  if invocation.delimiter != .brace then
    marks ";"
  return .invocationItem attributes none invocation

/-! ## Items of traits -/

/-- Read a method of a trait behind its attributes: a signature with a body or a semicolon. -/
def traitMethod
    (grammar : Grammar)
    (attributes : Node (.many .attribute)) :
    Parser (Node .item) := do
  let signature ← signature grammar
  if ← peek atBrace then
    let body ← attributedBlock grammar
    return .functionItem attributes .inherited false signature (.present body)
  else
    marks ";"
    return .functionItem attributes .inherited false signature .absent

/-- Read one item of a trait. One with a visibility or a default marker is kept as its
tokens. -/
def traitMember (grammar : Grammar) : Parser (Node .item) := do
  let start ← get
  let attributes ← outerAttributes grammar
  let access ← visibility
  let isDefault ← optionalWord "default"
  let plain := access == .inherited && !isDefault
  let ahead ← get
  let item ←
    if atSignature false ahead then traitMethod grammar attributes
    else if atWord "const" ahead then do
      let parts ← constParts grammar
      if parts.isGeneral then
        pure (.verbatimItem (← readSince start))
      else
        pure (.constItem attributes .inherited false parts.name parts.type
          (.ofOption parts.value))
    else if atWord "type" ahead then do
      let parts ← typeParts grammar .behindDefinition
      pure (.associatedTypeItem attributes .inherited false parts.name parts.generics
        parts.colon (.ofList parts.bounds.elements) parts.bounds.trailing
        (.ofOption parts.type))
    else if plain && atInvocationPath ahead then memberInvocation attributes
    else refuse
  if plain then
    return item
  else
    return .verbatimItem (← readSince start)

/-! ## Items of implementations -/

/-- Read one item of an implementation. -/
def implMember (grammar : Grammar) : Parser (Node .item) := do
  let tokens ← get
  let attributes ← outerAttributes grammar
  let access ← visibility
  let start : ItemStart := ⟨tokens, attributes, access⟩
  let defaultAhead ← peek fun ahead => atWord "default" ahead && !second (atMarks "!") ahead
  let isDefault ← if defaultAhead then optionalWord "default" else pure false
  let ahead ← get
  if atSignature false ahead then
    let signature ← signature grammar
    if ← optionalMarks ";" then
      verbatim start
    else
      let body ← attributedBlock grammar
      return .functionItem attributes access isDefault signature (.present body)
  else if atWord "const" ahead then
    let parts ← constParts grammar
    match parts.value with
    | some value =>
        if parts.isGeneral then verbatim start
        else
          return .constItem attributes access isDefault parts.name parts.type (.present value)
    | none => verbatim start
  else if atWord "type" ahead then
    let parts ← typeParts grammar .behindDefinition
    match parts.type with
    | some type =>
        if parts.colon then verbatim start
        else
          return .associatedTypeItem attributes access isDefault parts.name parts.generics
            false .nil false (.present type)
    | none => verbatim start
  else if access == .inherited && !isDefault && atInvocationPath ahead then
    memberInvocation attributes
  else refuse

/-! ## Items of foreign blocks -/

/-- Read a foreign function; with a body or a safety marker it is kept as its tokens. -/
def foreignFunction
    (grammar : Grammar)
    (start : ItemStart) :
    Parser (Node .item) := do
  let (signature, safe) ← signatureWith grammar true
  if ← peek atBrace then
    let _ ← attributedBlock grammar
    verbatim start
  else
    marks ";"
    if safe then verbatim start
    else return .functionItem start.attributes start.access false signature .absent

/-- Read a foreign static; with a value or a safety marker it is kept as its tokens. -/
def foreignStatic
    (grammar : Grammar)
    (start : ItemStart) :
    Parser (Node .item) := do
  let isUnchecked ← optionalWord "unsafe"
  let safe ← if isUnchecked then pure false else optionalWord "safe"
  word "static"
  let mutable ← optionalWord "mut"
  let name ← identifier
  marks ":"
  let type ← grammar.type true
  let hasValue ← optionalMarks "="
  if hasValue then
    let _ ← grammar.expr true
  marks ";"
  if isUnchecked || safe || hasValue then verbatim start
  else return .staticItem start.attributes start.access mutable name type .absent

/-- Read one item of a foreign block. -/
def foreignMember (grammar : Grammar) : Parser (Node .item) := do
  let tokens ← get
  let attributes ← outerAttributes grammar
  let access ← visibility
  let start : ItemStart := ⟨tokens, attributes, access⟩
  let ahead ← get
  let staticAhead := atWord "static" ahead
    || ((atWord "unsafe" ahead || atWord "safe" ahead) && second (atWord "static") ahead)
  if atSignature true ahead then foreignFunction grammar start
  else if staticAhead then foreignStatic grammar start
  else if atWord "type" ahead then
    let parts ← typeParts grammar .anywhere
    if parts.colon || parts.type.isSome then verbatim start
    else
      return .foreignTypeItem attributes access parts.name parts.generics
  else if access == .inherited && atInvocationPath ahead then memberInvocation attributes
  else refuse

/-! ## Items of modules -/

/-- The content of a block of items: inner attributes, then items. -/
def itemBlock
    (grammar : Grammar)
    (member : Parser (Node .item)) :
    Parser (Node (.many .attribute) × Node (.many .item)) :=
  inside .brace do
    let inner ← innerAttributes grammar
    let items ← repeatToEnd member
    return (inner, .ofList items)

/-- Read a function; without a body it is kept as its tokens. -/
def functionItem
    (grammar : Grammar)
    (start : ItemStart) :
    Parser (Node .item) := do
  let signature ← signature grammar
  if ← optionalMarks ";" then
    verbatim start
  else
    let body ← attributedBlock grammar
    return .functionItem start.attributes start.access false signature (.present body)

/-- Read the import of a whole crate. -/
def crateItem (start : ItemStart) : Parser (Node .item) := do
  word "extern"
  word "crate"
  let name ← if ← peek (atWord "self") then anyWord else identifier
  let rename ← if ← optionalWord "as" then some <$> identifierOrUnderscore else pure none
  marks ";"
  return .crateItem start.attributes start.access name rename

/-- Read a foreign block, which has no visibility. -/
def foreignItem
    (grammar : Grammar)
    (start : ItemStart) :
    Parser (Node .item) := do
  require (start.access == .inherited)
  let isUnchecked ← optionalWord "unsafe"
  match ← convention with
  | none => refuse
  | some linkage =>
      let (inner, items) ← itemBlock grammar (foreignMember grammar)
      return .foreignItem start.attributes isUnchecked linkage inner items

/-- Read an import. One with a path from the root in a group is kept as its tokens. -/
def useItem
    (grammar : Grammar)
    (start : ItemStart) :
    Parser (Node .item) := do
  word "use"
  let leading ← optionalMarks "::"
  let tree ← grammar.useTree (!leading)
  marks ";"
  match tree with
  | some tree => return .useItem start.attributes start.access leading tree
  | none => verbatim start

/-- Read a static; without a type or a value it is kept as its tokens. -/
def staticItem
    (grammar : Grammar)
    (start : ItemStart) :
    Parser (Node .item) := do
  word "static"
  let mutable ← optionalWord "mut"
  let name ← identifier
  if ← optionalMarks "=" then
    let _ ← grammar.expr true
    marks ";"
    verbatim start
  else
    marks ":"
    let type ← grammar.type true
    if ← optionalMarks ";" then
      verbatim start
    else
      marks "="
      let value ← grammar.expr true
      marks ";"
      return .staticItem start.attributes start.access mutable name type (.present value)

/-- Read a constant; without a value, or with parameters, it is kept as its tokens. -/
def constItem
    (grammar : Grammar)
    (start : ItemStart) :
    Parser (Node .item) := do
  let parts ← constParts grammar
  match parts.value with
  | some value =>
      if parts.isGeneral then verbatim start
      else
        return .constItem start.attributes start.access false parts.name parts.type
          (.present value)
  | none => verbatim start

/-- Read a module. -/
def moduleItem
    (grammar : Grammar)
    (start : ItemStart) :
    Parser (Node .item) := do
  let isUnchecked ← optionalWord "unsafe"
  word "mod"
  let name ← if ← peek (atWord "try") then anyWord else identifier
  if ← optionalMarks ";" then
    return .moduleItem start.attributes start.access isUnchecked name .nil .absent
  else
    let (inner, items) ← itemBlock grammar grammar.item
    return .moduleItem start.attributes start.access isUnchecked name inner (.present items)

/-- Read a type alias; without a type, or with bounds, it is kept as its tokens. -/
def typeItem
    (grammar : Grammar)
    (start : ItemStart) :
    Parser (Node .item) := do
  let parts ← typeParts grammar .beforeDefinition
  match parts.type with
  | some type =>
      if parts.colon then verbatim start
      else return .typeItem start.attributes start.access parts.name parts.generics type
  | none => verbatim start

/-- Read a structure. -/
def structItem
    (grammar : Grammar)
    (start : ItemStart) :
    Parser (Node .item) := do
  word "struct"
  let name ← identifier
  let generics ← angleParameters grammar
  let (fields, conditions) ← structBody grammar
  return .structItem start.attributes start.access name (genericsNode generics conditions) fields

/-- Read an enumeration. -/
def enumItem
    (grammar : Grammar)
    (start : ItemStart) :
    Parser (Node .item) := do
  word "enum"
  let name ← identifier
  let generics ← angleParameters grammar
  let conditions ← conditions grammar
  let variants ← inside .brace (commaList (variant grammar))
  return .enumItem start.attributes start.access name (genericsNode generics conditions)
    (.ofList variants.elements) variants.trailing

/-- Read a union. -/
def unionItem
    (grammar : Grammar)
    (start : ItemStart) :
    Parser (Node .item) := do
  word "union"
  let name ← identifier
  let generics ← angleParameters grammar
  let conditions ← conditions grammar
  let fields ← namedFields grammar
  return .unionItem start.attributes start.access name (genericsNode generics conditions) fields

/-- Read the bounds of a trait or alias up to where `stop` holds. -/
def boundsTo
    (grammar : Grammar)
    (rules : BoundRules)
    (stop : Test) :
    Parser (Separated (Node .bound)) :=
  separatedTo (fun tokens => atWord "where" tokens || stop tokens) "+" (bound grammar rules)

/-- Read a trait, or an alias for bounds. -/
def traitItem
    (grammar : Grammar)
    (start : ItemStart) :
    Parser (Node .item) := do
  let isUnchecked ← optionalWord "unsafe"
  let isAuto ← optionalWord "auto"
  word "trait"
  let name ← identifier
  let generics ← angleParameters grammar
  if !isUnchecked && !isAuto && (← peek (atMarks "=")) then
    marks "="
    let bounds ← boundsTo grammar .strict (atMarks ";")
    let conditions ← conditions grammar
    marks ";"
    return .traitAliasItem start.attributes start.access name
      (genericsNode generics conditions) (.ofList bounds.elements) bounds.trailing
  else
    let colon ← optionalMarks ":"
    let bounds ← if colon then boundsTo grammar .declared atBrace else pure ⟨[], false⟩
    let conditions ← conditions grammar
    let (inner, items) ← itemBlock grammar (traitMember grammar)
    return .traitItem start.attributes start.access isUnchecked isAuto name
      (genericsNode generics conditions) colon (.ofList bounds.elements) bounds.trailing inner
      items

/-- The path of a type that may be implemented as a trait. -/
def traitPath? : Node .type → Option (Node .path)
  | .pathType (.simplePath leading segments) => some (.simplePath leading segments)
  | _ => none

/-- Read an implementation. One with a visibility, of a constant trait or of something that is
no path is kept as its tokens. Only a trait may be implemented negatively. -/
def implItem
    (grammar : Grammar)
    (start : ItemStart) :
    Parser (Node .item) := do
  let isDefault ← optionalWord "default"
  let isUnchecked ← optionalWord "unsafe"
  word "impl"
  let general ← peek atParameters
  let generics ← if general then angleParameters grammar else pure (false, ⟨[], false⟩)
  let constAhead ← peek fun tokens =>
    atWord "const" tokens || (atMarks "?" tokens && second (atWord "const") tokens)
  if constAhead then
    let _ ← optionalMarks "?"
    word "const"
  let negative ← peek fun tokens => atMarks "!" tokens && !second atBrace tokens
  if negative then
    marks "!"
  let first ← grammar.type true
  let isFor ← optionalWord "for"
  require (isFor || !negative)
  let owner ← if isFor then grammar.type true else pure first
  let trait := if isFor then traitPath? first else none
  let conditions ← conditions grammar
  let (inner, items) ← itemBlock grammar (implMember grammar)
  if start.access != .inherited || constAhead || (isFor && trait.isNone) then
    verbatim start
  else
    return .implItem start.attributes isDefault isUnchecked (genericsNode generics conditions)
      negative (.ofOption trait) owner inner items

/-- Read the definition of a macro by its body, which is kept as its tokens. -/
def macroDefinition (start : ItemStart) : Parser (Node .item) := do
  word "macro"
  let _ ← identifier
  if ← peek atParenthesis then
    let _ ← anyGroup
  require (← peek atBrace)
  let _ ← anyGroup
  verbatim start

/-- Read a macro invocation that is an item of a module; a name may stand in front of its
arguments. -/
def invocationItem (start : ItemStart) : Parser (Node .item) := do
  let path ← plainPath
  marks "!"
  let name ←
    if ← peek (fun tokens => atIdentifier tokens || atWord "try" tokens) then
      some <$> anyWord
    else pure none
  let (delimiter, body) ← anyGroup
  if delimiter != .brace then
    marks ";"
  return .invocationItem start.attributes name ⟨path, delimiter, body⟩

/-- Does a trait that is implemented automatically begin here? -/
def atAutoTrait : Test := fun tokens =>
  atWord "auto" tokens && second (atWord "trait") tokens

/-- Read an item that begins with the word for unchecked code and is no function. -/
def uncheckedItem
    (grammar : Grammar)
    (start : ItemStart)
    (ahead : List Token) :
    Parser (Node .item) := do
  let behind := ahead.drop 1
  if atWord "trait" behind || atAutoTrait behind then traitItem grammar start
  else if atWord "impl" behind then implItem grammar start
  else if atWord "extern" behind then foreignItem grammar start
  else if atWord "mod" behind then moduleItem grammar start
  else refuse

/-- Read an item behind its attributes; `tokens` is the row that these begin. -/
def itemBehind
    (grammar : Grammar)
    (tokens : List Token)
    (attributes : Node (.many .attribute)) :
    Parser (Node .item) := do
  let access ← visibility
  let start : ItemStart := ⟨tokens, attributes, access⟩
  let ahead ← get
  if atSignature false ahead then functionItem grammar start
  else if atWord "extern" ahead then
    if second (atWord "crate") ahead then crateItem start
    else foreignItem grammar start
  else if atWord "use" ahead then useItem grammar start
  else if atWord "static" ahead then staticItem grammar start
  else if atWord "const" ahead then constItem grammar start
  else if atWord "unsafe" ahead then uncheckedItem grammar start ahead
  else if atWord "mod" ahead then moduleItem grammar start
  else if atWord "type" ahead then typeItem grammar start
  else if atWord "struct" ahead then structItem grammar start
  else if atWord "enum" ahead then enumItem grammar start
  else if atWord "union" ahead && second atIdentifier ahead then unionItem grammar start
  else if atWord "trait" ahead || atAutoTrait ahead then traitItem grammar start
  else if atWord "impl" ahead
      || (atWord "default" ahead && !second (atMarks "!") ahead) then
    implItem grammar start
  else if atWord "macro" ahead then macroDefinition start
  else if access == .inherited && atInvocationPath ahead then invocationItem start
  else refuse

/-- Read an item of a module. -/
def readItem (grammar : Grammar) : Parser (Node .item) := do
  let start ← get
  let attributes ← outerAttributes grammar
  itemBehind grammar start attributes

end Scaffold.Source.Grammar
