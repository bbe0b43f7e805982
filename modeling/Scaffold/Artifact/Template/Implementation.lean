import Scaffold.Artifact.Service

/-!
Contract: the text of the service type.

Owns:
- the type with its constructor;
- an implementation of the interface whose methods are left to their author; an interface
  without methods gets none.
-/

namespace Scaffold.Artifact.Template

open Code

/-- A method that is left to its author. -/
def todoMethod (name : String) (method : Method) : Code :=
  .block [.code method.signature]
    [.line ["todo!(\"", .name name, "::", .name method.name, "\")"]]

/-- The service type. -/
def implementation (service : Service) : List Code :=
  let name := service.name
  let path := service.packagePath
  let methods := service.methods
  [.line (if methods.isEmpty then "" else ["use ", .code path, "::*;"]),
   "",
   .line ["/// Implements [`", .name name, "`]; every method is left for the service author."],
   "#[derive(Debug, Clone, Default)]",
   .line ["pub struct ", .name name, "Service \x7b\x7d"],
   "",
   .block ["impl ", .name name, "Service"]
     [.block "pub fn new() -> Self"
        ["Self \x7b\x7d"]],
   "",
   .when (!methods.isEmpty)
     [.line (if service.interface.asyncTrait then asyncTraitAttribute else ""),
      "#[allow(unused_variables)]",
      .members ["impl ", .name name, " for ", .name name, "Service"]
        (methods.map (todoMethod name))]]

end Scaffold.Artifact.Template
