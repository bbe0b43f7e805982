import Scaffold.Failure
import Scaffold.Interface.Method
import Scaffold.Source.Tree.Tokens
import Scaffold.Text.Compact

/-!
Contract: interfaces from the signatures of a declared trait.

Owns:
- the types that have a reference by name, and the text of those that have none;
- the method that a signature declares;
- the interface that a trait declares, or the first failure among its methods.

A parameter that is an underscore gets a name after its place among the typed parameters. Its
name is the same in the method and in every text of the signature.
-/

namespace Scaffold

open Source

/-- The compact text of a type. -/
def compactType (type : Node .type) : String :=
  Text.compact type.typeText

/-- The names of a path none of whose segments has arguments. -/
def bareNames? (segments : List (Node .segment)) : Option (List String) :=
  segments.mapM fun
    | .pathSegment name .noArguments => some name
    | .pathSegment _ (.angleArguments _ _ _) => none
    | .pathSegment _ (.callArguments _ _ _) => none

/-- The reference to a type with a given row of names. -/
def TypeRef.ofNames? (names : List String) : Option TypeRef :=
  match names.reverse with
  | [] => none
  | [name] => some (.simple name)
  | name :: before => some (.qualified (joinedBy "::" before.reverse) name)

/-- The reference to a type, or the compact text of one that has none. Parentheses and groups
around a type do not count. -/
def TypeRef.classify : {c : Category} → Node c → Except String TypeRef
  | _, .pathType (.simplePath false segments) =>
      match (bareNames? segments.toList).bind TypeRef.ofNames? with
      | some reference => .ok reference
      | none => .error (compactType (.pathType (.simplePath false segments)))
  | _, .tupleType .nil _ => .ok .unit
  | _, .parenthesizedType type => TypeRef.classify type
  | _, .groupedType type => TypeRef.classify type
  | .type, type => .error (compactType type)
  | _, _ => .error ""

/-- The reference to a type, if it has one. -/
def TypeRef.ofType? (type : Node .type) : Option TypeRef :=
  (TypeRef.classify type).toOption

/-! ## Signatures -/

/-- Is the parameter the receiver of a method? -/
def isReceiver : Node .parameter → Bool
  | .selfParameter _ _ _ _ => true
  | _ => false

/-- The parameters with every underscore among the typed ones replaced by a name. `index` is the
number of typed parameters in front. -/
def nameWildcards
    (index : Nat) :
    List (Node .parameter) → List (Node .parameter)
  | [] => []
  | .typedParameter attributes .wildcardPattern type :: rest =>
      .typedParameter attributes
          (.namePattern false false ("arg" ++ toString index) .absent) type
        :: nameWildcards (index + 1) rest
  | .typedParameter attributes pattern type :: rest =>
      .typedParameter attributes pattern type :: nameWildcards (index + 1) rest
  | parameter :: rest => parameter :: nameWildcards index rest

/-- The patterns and types of the typed parameters. -/
def typedParameters (parameters : List (Node .parameter)) :
    List (Node .pattern × Node .type) :=
  parameters.filterMap fun
    | .typedParameter _ pattern type => some (pattern, type)
    | _ => none

/-- The parameters that take a fixed number of arguments, and whether a comma follows the last
of them. -/
def fixedParameters
    (parameters : List (Node .parameter))
    (trailing : Bool) :
    List (Node .parameter) × Bool :=
  let isFixed : Node .parameter → Bool := fun
    | .variadicParameter _ _ => false
    | _ => true
  let fixed := parameters.filter isFixed
  (fixed, !fixed.isEmpty && (trailing || fixed.length < parameters.length))

/-- The text of a signature behind the name: generic parameters, parameters, return type and
conditions. -/
def suffixText
    (generics : Node .generics)
    (parameters : List (Node .parameter))
    (trailing : Bool)
    (output : Option (Node .type)) :
    String :=
  let (lead, conditions) := generics.tokens
  let (fixed, comma) := fixedParameters parameters trailing
  let inputs := Spelling.commaSeparated (fixed.map fun parameter => parameter.tokens) comma
  let conditional : Bool :=
    match generics with
    | .genericList _ _ _ (.present _) _ => true
    | .genericList _ _ _ .absent _ => false
  Text.compact (Token.textOf lead) ++ "(" ++ Text.compact (Token.textOf inputs) ++ ")"
    ++ (match output with
        | some type => " -> " ++ compactType type
        | none => "")
    ++ (if conditional then " " ++ Text.compact (Token.textOf conditions) else "")

/-! ## Results -/

/-- The types among generic arguments. -/
def typeArguments (arguments : List (Node .argument)) : List (Node .type) :=
  arguments.filterMap fun
    | .typeArgument type => some type
    | _ => none

/-- The value and error types of a result type: the type arguments of a path that ends in the
name for results, if there are one or two. -/
def resultArguments? : Node .type → Option (List (Node .type))
  | .pathType (.simplePath _ segments) =>
      match segments.toList.reverse with
      | .pathSegment "Result" (.angleArguments _ arguments _) :: _ =>
          let types := typeArguments arguments.toList
          if types.length = 1 || types.length = 2 then some types else none
      | _ => none
  | _ => none

/-- The types of the results of a method, and whether it is fallible. -/
def resultTypes : Option (Node .type) → List (Node .type) × Bool
  | none => ([], false)
  | some type =>
      match resultArguments? type with
      | some types => (types, true)
      | none =>
          match type with
          | .tupleType elements _ => (elements.toList, false)
          | other => ([other], false)

/-! ## Methods -/

/-- Names of a first parameter that make it the request context. -/
def contextNames : List String :=
  ["ctx", "_ctx"]

/-- The name that a pattern binds, if it is nothing but a name. -/
def boundName? : Node .pattern → Option String
  | .namePattern false _ name .absent => some name
  | _ => none

/-- The parameters of a method, from the one with the given number on, counted from one. -/
def parametersFrom
    (fail : TypePosition → String → Failure)
    (number : Nat) :
    List (Node .pattern × Node .type) → Except Failure (List Parameter)
  | [] => .ok []
  | (pattern, type) :: rest =>
      match boundName? pattern with
      | none =>
          .error (fail (.argumentPattern number) (Text.compact pattern.patternText))
      | some name =>
          match TypeRef.ofType? type with
          | none => .error (fail (.argument name) (compactType type))
          | some reference => do
              return ⟨name, reference⟩ :: (← parametersFrom fail (number + 1) rest)

/-- The results of a method, from the one with the given number on, counted from one. -/
def resultsFrom
    (fail : TypePosition → String → Failure)
    (number : Nat) :
    List (Node .type) → Except Failure (List Parameter)
  | [] => .ok []
  | type :: rest =>
      match TypeRef.ofType? type with
      | none => .error (fail (.returnValue number) (compactType type))
      | some reference => do
          return .unnamed reference :: (← resultsFrom fail (number + 1) rest)

/-- The context and the arguments among the parameters of a method. -/
def splitContext : List Parameter → Option Parameter × List Parameter
  | [] => (none, [])
  | first :: rest =>
      if contextNames.contains first.name then (some first, rest) else (none, first :: rest)

/-- The method of an interface that a signature declares. -/
def Method.ofSignature
    (interface : String) :
    Node .signature → Except Failure Method
  | .functionSignature head name generics parameters trailing output => do
      let named := nameWildcards 0 parameters.toList
      let fail := Failure.unsupportedType interface name
      let all ← parametersFrom fail 1 (typedParameters named)
      let (types, fallible) := resultTypes output.toOption
      let results ← resultsFrom fail 1 types
      let (context, arguments) := splitContext all
      let suffix := suffixText generics named trailing output.toOption
      return {
        name
        signature := (if head.isAsync then "async " else "") ++ "fn " ++ name ++ suffix
        signatureSuffix := suffix
        isAsync := head.isAsync
        context
        arguments
        results
        fallible
        resultSignature :=
          match output.toOption with
          | some type => compactType type
          | none => "()" }

/-! ## Interfaces -/

/-- A declared trait as far as an interface depends on it: its name, the signatures of its
methods with a receiver, and whether it asks for its async methods to be boxed. -/
structure ServiceTrait where
  name : String
  signatures : List (Node .signature)
  asyncTrait : Bool

/-- The methods that signatures declare, none of which may have one of the names in `seen`. -/
def methodsFrom
    (interface : String)
    (seen : List String) :
    List (Node .signature) → Except Failure (List Method)
  | [] => .ok []
  | signature :: rest => do
      let method ← Method.ofSignature interface signature
      if seen.contains method.name then
        throw (.duplicateMethod interface method.name)
      else
        return method :: (← methodsFrom interface (method.name :: seen) rest)

/-- The interface that a trait declares. -/
def Interface.ofTrait
    (declaration : ServiceTrait)
    (package : String) :
    Except Failure Interface := do
  let methods ← methodsFrom declaration.name [] declaration.signatures
  return ⟨declaration.name, package, methods, declaration.asyncTrait⟩

end Scaffold
