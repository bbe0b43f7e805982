import Scaffold.Interface.TypeRef

/-!
Contract: service interfaces as what is generated from them needs to know them.

Owns:
- parameters, methods and interfaces;
- the text of a method's value and of the arguments that forward a call.

No syntax tree occurs here: a signature is text, and a type is a reference by name.
-/

namespace Scaffold

/-- A parameter of a method, or one of its results, which have the empty name. -/
structure Parameter where
  name : String
  type : TypeRef
  deriving DecidableEq, Repr

/-- A result of a method. -/
def Parameter.unnamed (type : TypeRef) : Parameter :=
  ⟨"", type⟩

/-- A method of an interface. -/
structure Method where
  name : String
  /-- The whole signature. -/
  signature : String
  /-- The signature behind the name. -/
  signatureSuffix : String
  isAsync : Bool
  /-- The request context, which is passed through and is none of the arguments. -/
  context : Option Parameter
  /-- The arguments in the order of their declaration. -/
  arguments : List Parameter
  /-- The results in the order of their declaration. -/
  results : List Parameter
  /-- Is the declared return type one of a result or an error? -/
  fallible : Bool
  /-- The return type as one piece of text. -/
  resultSignature : String
  deriving DecidableEq, Repr

/-- Texts with a separator between them. -/
def joinedBy (separator : String) (texts : List String) : String :=
  separator.intercalate texts

namespace Method

/-- The text of the type of a successful value: of a fallible method that of the first result,
otherwise that of the single result, or a tuple of all. -/
def valueType (method : Method) : String :=
  match method.fallible, method.results with
  | _, [] => "()"
  | true, first :: _ => first.type.text
  | false, [single] => single.type.text
  | false, many => "(" ++ joinedBy ", " (many.map fun result => result.type.text) ++ ")"

/-- The context, if there is one, and the arguments behind it. -/
def forwarded (method : Method) : List Parameter :=
  method.context.toList ++ method.arguments

/-- The arguments that forward a call: the names of all parameters but the receiver. -/
def callArguments (method : Method) : String :=
  joinedBy ", " (method.forwarded.map Parameter.name)

end Method

/-- A service interface. -/
structure Interface where
  name : String
  /-- The name of the package that declares the interface. -/
  package : String
  /-- The methods in the order of their declaration. -/
  methods : List Method
  /-- Does the interface ask for its async methods to be boxed? -/
  asyncTrait : Bool
  deriving DecidableEq, Repr

/-- The method with a given name. -/
def Interface.method? (interface : Interface) (name : String) : Option Method :=
  interface.methods.find? fun method => method.name == name

end Scaffold
