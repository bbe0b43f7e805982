import Scaffold.Artifact.Service

/-!
Contract: the text of the endpoints of a service.

Owns:
- the endpoint of each method, which takes a request envelope and answers with a response
  envelope;
- the two envelopes of each method.
-/

namespace Scaffold.Artifact.Template

open Code

/-- The call of a method of the service, behind what leads it and in front of what ends it. -/
def serviceCall (lead : String) (method : Method) (ending : String) : Line :=
  [lead, "self.service.", .name method.name, "(", .code method.requestArguments, ")",
    method.awaiting, ending]

/-- What an endpoint answers with: a fallible method's value or its failure, or the value. -/
def endpointAnswer (service : Service) (method : Method) : Code :=
  let responseType := service.responseType method
  if method.fallible then
    .block (serviceCall "match " method "")
      [.line ["Ok(result) => ", .name responseType, "::success(result),"],
       .line ["Err(error) => ", .name responseType, "::failure(error.to_string()),"]]
  else
    .all
      [.line (serviceCall "let result = " method ";"),
       .line [.name responseType, "::success(result)"]]

/-- The endpoint of a method. -/
def endpoint (service : Service) (method : Method) : List Code :=
  let responseType := service.responseType method
  let requestType := service.requestType method
  let request := if method.arguments.isEmpty then "_request" else "request"
  let head : Line := ["pub async fn ", .name method.name, "(&self, "]
  let context : Line :=
    match method.context with
    | some context => [.name context.name, ": ", .code context.type.text, ", "]
    | none => []
  let envelopes : Line := [request, ": ", .name requestType, ") -> ", .name responseType]
  ["",
   .block (head ++ context ++ envelopes) [endpointAnswer service method]]

/-- The request and the response envelope of a method. -/
def envelopes (service : Service) (method : Method) : List Code :=
  let name := service.name
  let requestType := service.requestType method
  let responseType := service.responseType method
  let value := method.valueType
  ["",
   .line ["/// Request parameters for [`", .name name, "::", .name method.name, "`]."],
   "#[derive(Debug, Clone, Serialize, Deserialize)]",
   .nest ["pub struct ", .name requestType, " \x7b"]
     [.each method.arguments fun argument =>
        [.line ["pub ", .name argument.name, ": ", .code argument.type.text, ","]]]
     "\x7d",
   "",
   .line ["/// Response envelope for [`", .name name, "::", .name method.name, "`]."],
   "#[derive(Debug, Clone, Serialize, Deserialize)]",
   .block ["pub struct ", .name responseType]
     ["pub success: bool,",
      "#[serde(default, skip_serializing_if = \"Option::is_none\")]",
      .line ["pub result: Option<", .code value, ">,"],
      "#[serde(default, skip_serializing_if = \"Option::is_none\")]",
      "pub error: Option<String>,"],
   "",
   .block ["impl ", .name responseType]
     [.block ["pub fn success(result: ", .code value, ") -> Self"]
        [.block "Self"
           ["success: true,",
            "result: Some(result),",
            "error: None,"]],
      "",
      .block "pub fn failure(error: impl Into<String>) -> Self"
        [.block "Self"
           ["success: false,",
            "result: None,",
            "error: Some(error.into()),"]],
      "",
      "/// The business error carried by the response, if any.",
      .block "pub fn failed(&self) -> Option<&str>"
        ["self.error.as_deref()"]]]

/-- The endpoints of a service. -/
def transport (service : Service) : List Code :=
  let name := service.name
  let snake := service.snake
  let path := service.packagePath
  let methods := service.methods
  ["use serde::\x7bDeserialize, Serialize\x7d;",
   "use std::sync::Arc;",
   .line ["use ", .code path, "::*;"],
   "",
   .line ["/// One endpoint per [`", .name name, "`] method, each taking a request envelope."],
   .block ["pub struct ", .name name, "Endpoints<S>"]
     ["service: Arc<S>,"],
   "",
   .block ["impl<S> Clone for ", .name name, "Endpoints<S>"]
     [.block "fn clone(&self) -> Self"
        [.block "Self"
           ["service: Arc::clone(&self.service),"]]],
   "",
   .line ["/// Wrap a [`", .name name, "`] implementation into its endpoints."],
   .block
     ["pub fn make_", .inner snake, "_endpoints<S: ", .name name, ">(service: S) -> ", .name name,
       "Endpoints<S>"]
     [.block [.name name, "Endpoints"]
        ["service: Arc::new(service),"]],
   "",
   .block ["impl<S: ", .name name, "> ", .name name, "Endpoints<S>"]
     [.block "pub fn service(&self) -> &S"
        ["&self.service"],
      .each methods (endpoint service)],
   .each methods (envelopes service),
   ""]

end Scaffold.Artifact.Template
