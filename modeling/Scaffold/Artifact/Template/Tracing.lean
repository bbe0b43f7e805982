import Scaffold.Artifact.Service

/-!
Contract: the text of the layer that runs every call of a service in a span.
-/

namespace Scaffold.Artifact.Template

open Code

/-- The forwarded call inside of its span. -/
def spannedCall (method : Method) : Code :=
  if method.isAsync then
    .hang "let output = self"
      [".next",
       .line [".", .name method.name, "(", .code method.callArguments, ")"],
       ".instrument(span.clone())",
       ".await;"]
  else
    .line ["let output = span.in_scope(|| self.next.", .name method.name, "(",
      .code method.callArguments, "));"]

/-- A method that opens a span and forwards its call. -/
def spannedMethod (snake : String) (method : Method) : Code :=
  .block [.code method.signature]
    [.nest "let span = tracing::info_span!("
       [.line ["\"", .prose snake, ".", .name method.name, "\","],
        "otel.kind = \"server\",",
        "error = tracing::field::Empty,"]
       ");",
     spannedCall method,
     .when method.fallible
       [.block "if let Err(error) = &output"
          ["span.record(\"error\", tracing::field::display(error));"]],
     "output"]

/-- The tracing layer. -/
def tracingMiddleware (service : Service) : List Code :=
  let name := service.name
  let snake := service.snake
  let path := service.packagePath
  let methods := service.methods
  [.line ["use ", .code path, "::*;"],
   .when service.anyAsync
     ["use tracing::Instrument;"],
   "",
   .line ["/// Runs every [`", .name name, "`] call inside its own span."],
   .block ["pub struct ", .name name, "TracingMiddleware<S>"]
     ["next: S,"],
   "",
   .block ["impl<S> ", .name name, "TracingMiddleware<S>"]
     [.block "pub fn new(next: S) -> Self"
        ["Self \x7b next \x7d"]],
   "",
   .when service.interface.asyncTrait [asyncTraitAttribute],
   .members
     ["impl<S: ", .name name, "> ", .name name, " for ", .name name, "TracingMiddleware<S>"]
     (methods.map (spannedMethod snake))]

end Scaffold.Artifact.Template
