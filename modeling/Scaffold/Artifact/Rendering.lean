import Scaffold.Artifact.Task
import Scaffold.Artifact.Template.Config
import Scaffold.Artifact.Template.ErrorEnvelope
import Scaffold.Artifact.Template.Http
import Scaffold.Artifact.Template.HttpEntryPoint
import Scaffold.Artifact.Template.Implementation
import Scaffold.Artifact.Template.Logging
import Scaffold.Artifact.Template.Nats
import Scaffold.Artifact.Template.Tracing
import Scaffold.Artifact.Template.TracingSetup
import Scaffold.Artifact.Template.Transport
import Scaffold.Failure

/-!
Contract: the text and the declarations that a service gets for each kind of file.

Owns:
- the choice of the template of a kind;
- the reading of generated text, so that text that is no source is found before any of it is
  merged.
-/

namespace Scaffold

open Source Artifact

namespace ArtifactKind

/-- The parts of the text of a kind for a service. -/
def code (kind : ArtifactKind) (service : Service) : List Code :=
  match kind with
  | .implementation => Template.implementation service
  | .errorEnvelope => Template.errorEnvelope
  | .transport => Template.transport service
  | .httpAdapter => Template.httpAdapter service
  | .natsAdapter => Template.natsAdapter service
  | .loggingMiddleware => Template.loggingMiddleware service
  | .tracingMiddleware => Template.tracingMiddleware service
  | .tracingSetup => Template.tracingSetup service.options.http service.options.nats
  | .config => Template.config service.interface.package
  | .httpEntryPoint => Template.httpEntryPoint service

/-- The text of a kind for a service. -/
def render (kind : ArtifactKind) (service : Service) : String :=
  Code.text (kind.code service)

/-- The declarations that a generated text spells. -/
def reparse (kind : ArtifactKind) (text : String) : Except Failure SourceFile :=
  match SourceFile.ofText? text with
  | some file => .ok file
  | none => .error (.renderedOutputParse kind)

end ArtifactKind

/-- The task with the text of its kind for a service merged into it. -/
def ArtifactTask.renderAndMerge
    (task : ArtifactTask)
    (service : Service) :
    Except Failure ArtifactTask := do
  return task.merge (← task.kind.reparse (task.kind.render service))

end Scaffold
