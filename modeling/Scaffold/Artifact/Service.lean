import Scaffold.Artifact.Code
import Scaffold.Directive
import Scaffold.Interface.Method
import Scaffold.Text.Words

/-!
Contract: a service as the generated text sees it.

Owns:
- the names that generated text derives from the names of the interface and its methods;
- the argument lists of forwarded calls.
-/

namespace Scaffold

/-- An interface, the path of the package that declares it, and what is asked for. -/
structure Service where
  interface : Interface
  packagePath : String
  options : Directive
  deriving DecidableEq, Repr

namespace Service

/-- The name of the interface. -/
def name (service : Service) : String :=
  service.interface.name

/-- The name of the interface in snake case. -/
def snake (service : Service) : String :=
  Text.snakeCase service.interface.name

/-- The methods of the interface. -/
def methods (service : Service) : List Method :=
  service.interface.methods

/-- Is one of the methods async? -/
def anyAsync (service : Service) : Bool :=
  service.methods.any Method.isAsync

end Service

/-- The name of a method in pascal case. -/
def Method.pascalName (method : Method) : String :=
  Text.pascalCase method.name

/-- The name of the request envelope of a method. -/
def Service.requestType (service : Service) (method : Method) : String :=
  service.name ++ method.pascalName ++ "Request"

/-- The name of the response envelope of a method. -/
def Service.responseType (service : Service) (method : Method) : String :=
  service.name ++ method.pascalName ++ "Response"

/-- The name of the HTTP handler of a method. -/
def Service.handlerName (service : Service) (method : Method) : String :=
  service.snake ++ "_" ++ method.name ++ "_handler"

/-- The name of the function that encodes the answer of a method. -/
def Service.encoderName (service : Service) (method : Method) : String :=
  "encode_" ++ service.snake ++ "_" ++ method.name ++ "_response"

/-- The name of the constant that holds the NATS subject prefix. -/
def Service.prefixName (service : Service) : String :=
  Text.shoutySnakeCase service.name ++ "_SUBJECT_PREFIX"

namespace Method

/-- The arguments that forward a call out of a request envelope: the context as it is, all others
as fields of the request. -/
def requestArguments (method : Method) : String :=
  joinedBy ", "
    (method.context.toList.map Parameter.name
      ++ method.arguments.map fun argument => "request." ++ argument.name)

/-- What waits for the result of an async method. -/
def awaiting (method : Method) : String :=
  if method.isAsync then ".await" else ""

/-- The context that a wire adapter passes, where the method takes one. -/
def defaultContext (method : Method) : String :=
  if method.context.isSome then "Default::default(), " else ""

end Method

/-- The attribute that boxes the async methods of an implementation. -/
def asyncTraitAttribute : String :=
  "#[async_trait::async_trait]"

end Scaffold
