import Scaffold.Artifact.Kind
import Scaffold.Text.Blank
import Scaffold.Text.Pieces

/-!
Contract: the words in a documentation text that ask for a service to be generated.

Owns:
- the marker word and the option words;
- the artifact kinds that each option, and every directive, asks for.

A word is whatever stands between blanks and commas, so `https` never turns on `http`, and
`http,nats` turns on both.
-/

namespace Scaffold

/-- What a directive can ask for beyond the kinds that every service gets. -/
inductive DirectiveOption where
  | http
  | nats
  | logging
  | tracing
  deriving DecidableEq, Repr

namespace DirectiveOption

/-- The options in their order. -/
def all : List DirectiveOption :=
  [.http, .nats, .logging, .tracing]

/-- The word that turns an option on. -/
def token : DirectiveOption → String
  | .http => "http"
  | .nats => "nats"
  | .logging => "logging"
  | .tracing => "tracing"

/-- The option that a word turns on. -/
def ofToken? (token : String) : Option DirectiveOption :=
  all.find? fun candidate => candidate.token == token

/-- The kinds that an option adds. Both wire adapters come with the settings and the error
envelope, and HTTP with an entry point. -/
def artifactKinds : DirectiveOption → List ArtifactKind
  | .http => [.httpAdapter, .httpEntryPoint, .config, .errorEnvelope]
  | .nats => [.natsAdapter, .config, .errorEnvelope]
  | .logging => [.loggingMiddleware]
  | .tracing => [.tracingMiddleware, .tracingSetup]

end DirectiveOption

/-- A directive: the set of options that are on. -/
structure Directive where
  http : Bool
  nats : Bool
  logging : Bool
  tracing : Bool
  deriving DecidableEq, Repr, Inhabited

namespace Directive

/-- The word that makes a documentation text a directive. -/
def marker : String := "servicegen:service"

/-- The kinds that every directive asks for. -/
def baseline : List ArtifactKind :=
  [.implementation, .transport]

/-- Is an option on? -/
def has
    (directive : Directive) :
    DirectiveOption → Bool
  | .http => directive.http
  | .nats => directive.nats
  | .logging => directive.logging
  | .tracing => directive.tracing

/-- The directive with exactly the listed options on. -/
def ofOptions (options : List DirectiveOption) : Directive where
  http := options.contains .http
  nats := options.contains .nats
  logging := options.contains .logging
  tracing := options.contains .tracing

/-- The options that are on, in their order. -/
def options (directive : Directive) : List DirectiveOption :=
  DirectiveOption.all.filter directive.has

/-- The words of a documentation text. -/
def words (doc : String) : List String :=
  Text.nonemptyPieces (fun char => Text.isBlank char || char == ',') doc

/-- The directive of a documentation text; a text without the marker word has none. Words
that are neither the marker nor an option are ignored. -/
def parse? (doc : String) : Option Directive :=
  let tokens := words doc
  if tokens.contains marker then
    some (ofOptions (tokens.filterMap DirectiveOption.ofToken?))
  else
    none

/-- The kinds that a directive asks for, each once, in the order of keys. -/
def artifactKinds (directive : Directive) : List ArtifactKind :=
  ArtifactKind.distinct
    (baseline ++ directive.options.flatMap DirectiveOption.artifactKinds)

end Directive

end Scaffold
