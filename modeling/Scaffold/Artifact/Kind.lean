import Scaffold.Files.Path

/-!
Contract: the kinds of generated files and where each of them lives.

Owns:
- the closed set of kinds and its order by key;
- the file name, directory and template name of each kind.

Does not own: what a file of a kind holds.
-/

namespace Scaffold

/-- The kinds of files that a service can have generated. -/
inductive ArtifactKind where
  /-- The service type, each of whose methods is left to its author. -/
  | implementation
  /-- The error envelope that the wire adapters share. -/
  | errorEnvelope
  /-- The endpoints with their request and response envelopes. -/
  | transport
  /-- The HTTP routes and handlers. -/
  | httpAdapter
  /-- The NATS subscribers. -/
  | natsAdapter
  /-- The layer that logs every call. -/
  | loggingMiddleware
  /-- The layer that runs every call in a span. -/
  | tracingMiddleware
  /-- The set-up of the span exporter and of context propagation. -/
  | tracingSetup
  /-- The settings of the running service. -/
  | config
  /-- The entry point of a process that serves HTTP. -/
  | httpEntryPoint
  deriving DecidableEq, Repr, Inhabited

namespace ArtifactKind

/-- The unique key of a kind; generated files are written in the order of keys. -/
def key : ArtifactKind → String
  | .implementation => "implementation"
  | .errorEnvelope => "error-envelope"
  | .transport => "transport"
  | .httpAdapter => "http-adapter"
  | .natsAdapter => "nats-adapter"
  | .loggingMiddleware => "logging-middleware"
  | .tracingMiddleware => "tracing-middleware"
  | .tracingSetup => "tracing-setup"
  | .config => "config"
  | .httpEntryPoint => "entry-point-http"

/-- Every kind, in the order of keys. -/
def all : List ArtifactKind :=
  [.config, .httpEntryPoint, .errorEnvelope, .httpAdapter, .implementation,
    .loggingMiddleware, .natsAdapter, .tracingMiddleware, .tracingSetup, .transport]

/-- The place of a kind among all kinds in the order of keys. -/
def rank (kind : ArtifactKind) : Nat :=
  all.idxOf kind

/-- The kind with the given key. -/
def ofKey? (key : String) : Option ArtifactKind :=
  all.find? fun kind => kind.key == key

/-- Kinds in the order of keys, each as often as it is given. -/
def sort (kinds : List ArtifactKind) : List ArtifactKind :=
  all.flatMap fun kind => List.replicate (kinds.count kind) kind

/-- The kinds that occur in a list, each once, in the order of keys. -/
def distinct (kinds : List ArtifactKind) : List ArtifactKind :=
  all.filter fun kind => kinds.contains kind

/-- The file name without the ending of generated files. -/
def fileKey : ArtifactKind → String
  | .implementation => "implementation"
  | .errorEnvelope => "error"
  | .transport => "transport"
  | .httpAdapter => "http"
  | .natsAdapter => "nats"
  | .loggingMiddleware => "logging"
  | .tracingMiddleware => "tracing"
  | .tracingSetup => "tracing"
  | .config => "config"
  | .httpEntryPoint => "httprun"

/-- The directory of a kind below the output root: the implementation and the error envelope
stand at the root, the wire adapters below the transport. -/
def directory : ArtifactKind → Path
  | .implementation => ⟨""⟩
  | .errorEnvelope => ⟨""⟩
  | .transport => ⟨"transport"⟩
  | .httpAdapter => ⟨"transport/http"⟩
  | .natsAdapter => ⟨"transport/nats"⟩
  | .loggingMiddleware => ⟨"middleware"⟩
  | .tracingMiddleware => ⟨"middleware"⟩
  | .tracingSetup => ⟨"otel"⟩
  | .config => ⟨"config"⟩
  | .httpEntryPoint => ⟨"cmd"⟩

/-- The ending of every generated file name; it marks the file as safe to overwrite. -/
def generatedEnding : String := "_gen.rs"

/-- The file name of a kind. -/
def fileName (kind : ArtifactKind) : String :=
  kind.fileKey ++ generatedEnding

/-- The path of a kind's file below the output root. -/
def relativePath (kind : ArtifactKind) : Path :=
  kind.directory.join ⟨kind.fileName⟩

/-- The name of the template that a kind is made from. -/
def template : ArtifactKind → String
  | .implementation => "implementation.rs"
  | .errorEnvelope => "error.rs"
  | .transport => "transport.rs"
  | .httpAdapter => "http.rs"
  | .natsAdapter => "nats.rs"
  | .loggingMiddleware => "logging.rs"
  | .tracingMiddleware => "tracing.rs"
  | .tracingSetup => "otel.rs"
  | .config => "config.rs"
  | .httpEntryPoint => "httprun.rs"

end ArtifactKind

end Scaffold
