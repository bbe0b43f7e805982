import Scaffold.Artifact.Service

/-!
Contract: the text of the layer that logs every call of a service.
-/

namespace Scaffold.Artifact.Template

open Code

/-- A method that logs its call and forwards it. -/
def loggedMethod (name : String) (method : Method) : Code :=
  let arguments := String.join (method.arguments.map fun argument => s!"&{argument.name}, ")
  .block [.code method.signature]
    ["let begin = Instant::now();",
     .line ["let arguments = format!(\"\x7b:?\x7d\", (", .code arguments, "));"],
     .line ["let output = self.next.", .name method.name, "(", .code method.callArguments, ")",
       method.awaiting, ";"],
     .nest "tracing::info!("
       [.line ["method = \"", .name method.name, "\","],
        "arguments = %arguments,",
        .when method.fallible
          ["failed = output.is_err(),"],
        "elapsed = ?begin.elapsed(),",
        .line ["\"", .name name, " call\""]]
       ");",
     "output"]

/-- The logging layer. -/
def loggingMiddleware (service : Service) : List Code :=
  let name := service.name
  let path := service.packagePath
  let methods := service.methods
  ["use std::time::Instant;",
   .line ["use ", .code path, "::*;"],
   "",
   .line ["/// Logs every [`", .name name, "`] call with its arguments and duration."],
   .block ["pub struct ", .name name, "LoggingMiddleware<S>"]
     ["next: S,"],
   "",
   .block ["impl<S> ", .name name, "LoggingMiddleware<S>"]
     [.block "pub fn new(next: S) -> Self"
        ["Self \x7b next \x7d"]],
   "",
   .when service.interface.asyncTrait [asyncTraitAttribute],
   .members
     ["impl<S: ", .name name, "> ", .name name, " for ", .name name, "LoggingMiddleware<S>"]
     (methods.map (loggedMethod name))]

end Scaffold.Artifact.Template
