import Scaffold.Proofs.Artifact.Parts
import Scaffold.Proofs.Generation.Build

/-!
Contract: the imports and the public names of the files of a service.

Owns:
- for every kind of file, that it imports only what is allowed, and the names that it declares.

Does not own: which imports are allowed.
-/

namespace Scaffold

open Source Artifact

/-! ### Siblings -/

/-- The modules below the package that lead to the file of a kind, its own last. -/
def ArtifactKind.modules : ArtifactKind → List String
  | .implementation => ["implementation_gen"]
  | .errorEnvelope => ["error_gen"]
  | .transport => ["transport", "transport_gen"]
  | .httpAdapter => ["transport", "http", "http_gen"]
  | .natsAdapter => ["transport", "nats", "nats_gen"]
  | .loggingMiddleware => ["middleware", "logging_gen"]
  | .tracingMiddleware => ["middleware", "tracing_gen"]
  | .tracingSetup => ["otel", "tracing_gen"]
  | .config => ["config", "config_gen"]
  | .httpEntryPoint => ["cmd", "httprun_gen"]

theorem Directive.mem_of_mem_baseline
    {directive : Directive}
    {kind : ArtifactKind}
    (member : kind ∈ Directive.baseline) :
    kind ∈ directive.artifactKinds :=
  ArtifactKind.mem_distinct.mpr (List.mem_append_left _ member)

theorem mem_baseline_transport : .transport ∈ Directive.baseline := by decide

theorem mem_baseline_implementation : .implementation ∈ Directive.baseline := by decide

theorem Directive.mem_of_has
    {directive : Directive}
    {kind : ArtifactKind}
    (option : DirectiveOption)
    (on : directive.has option = true)
    (adds : kind ∈ option.artifactKinds) :
    kind ∈ directive.artifactKinds := by
  refine ArtifactKind.mem_distinct.mpr (List.mem_append_right _ (List.mem_flatMap.mpr ⟨option, ?_, adds⟩))
  exact List.mem_filter.mpr ⟨by cases option <;> decide, on⟩

/-- The types and the functions that the file of a kind declares public. -/
def Service.declaredNames (service : Service) : ArtifactKind → List String
  | .implementation => [service.name ++ "Service"]
  | .errorEnvelope => ["AppError", "ErrorResponse"]
  | .transport => [service.name ++ "Endpoints", "make_" ++ service.snake ++ "_endpoints"]
  | .httpAdapter => ["register_" ++ service.snake ++ "_routes"]
  | .natsAdapter => []
  | .loggingMiddleware => [service.name ++ "LoggingMiddleware"]
  | .tracingMiddleware => [service.name ++ "TracingMiddleware"]
  | .tracingSetup =>
      ["init_tracer"]
        ++ (if service.options.http then
            ["extract_trace_from_http_headers", "inject_trace_to_http_headers"] else [])
        ++ (if service.options.nats then
            ["extract_trace_from_nats_headers", "inject_trace_to_nats_headers"] else [])
  | .config => ["ServiceConfig", "print_banner"]
  | .httpEntryPoint => [service.name ++ "HttpRunArgs"]

/-- An import from a generated module below the path of the package is one from the file of a kind that
the service has, and of a name that this file declares. -/
def Service.Resolves (service : Service) (path : ModulePath) (imported : Import) : Prop :=
  imported.fromRoot = path.fromRoot → ∀ modules, imported.path = path.names ++ modules →
    (∃ last ∈ modules.getLast?, isGeneratedName last) →
      ∃ kind ∈ service.options.artifactKinds, kind.modules = modules
        ∧ ∀ name ∈ imported.name, name ∈ service.declaredNames kind

theorem Service.allowsForeign (service : Service) (path : ModulePath) :
    AllowsForeign (service.Resolves path) := by
  rintro imported ⟨last, isLast, ordinary⟩ - modules spelled ⟨other, isOther, generated⟩
  rw [spelled, List.getLast?_append, Option.mem_def.mp isOther] at isLast
  cases isLast
  exact absurd generated ordinary

/-- The names by which something is imported. -/
def Source.ImportedNames.given : ImportedNames → List String
  | .all => []
  | .one name | .hidden name => [name]
  | .group names => names

theorem Source.ImportLine.mem_given
    {line : ImportLine}
    {imported : Import}
    {name : String}
    (member : imported ∈ line.imports)
    (isName : name ∈ imported.name) :
    name ∈ line.names.given := by
  obtain ⟨fromRoot, path, names⟩ := line
  cases names with
  | all | one | hidden =>
      rw [List.mem_singleton.mp member] at isName
      cases isName
      try exact List.mem_cons_self
  | group names =>
      obtain ⟨_, isMember, rfl⟩ := List.mem_map.mp member
      cases isName
      exact isMember

/-- The path of the package of a service, in words. -/
structure Service.IsBelow (service : Service) (path : ModulePath) : Prop where
  spelled : service.packagePath = path.text
  sound : path.IsSound

theorem wordOf_name (text : String) (characters : List Char) :
    wordOf (.name text :: characters.map .known) = text ++ String.ofList characters := by
  apply String.toList_inj.mp
  simp [wordOf, Glyph.charactersOf_cons, Glyph.charactersOf_known, Glyph.characters]

theorem wordOf_inner (text : String) (front back : List Char) :
    wordOf (front.map .known ++ .inner text :: back.map .known)
      = String.ofList front ++ text ++ String.ofList back := by
  apply String.toList_inj.mp
  simp [wordOf, Glyph.charactersOf_append, Glyph.charactersOf_cons, Glyph.charactersOf_known,
    Glyph.characters]

theorem singleton_subset
    {name known : String}
    {names : List String}
    (same : name = known)
    (member : known ∈ names) :
    [name] ⊆ names := by
  rwa [same, List.cons_subset, and_iff_left (List.nil_subset _)]

section Siblings

variable
  {service : Service}
  {path : ModulePath}
  {tail : Line}
  {glyphs : List Glyph}
  {modules : List (List Glyph)}
  {names : ImportedNames}
  (below : service.IsBelow path)

include below

/-- A line that imports from the file of a kind. -/
theorem Service.sibling_comply
    {kind : ArtifactKind}
    (asked : kind ∈ service.options.artifactKinds)
    (shows_ : tail.Shows glyphs)
    (found : Glyph.below? glyphs = some (modules, names))
    (same : modules.map wordOf = kind.modules)
    (given : names.given ⊆ service.declaredNames kind)
    (pending : List Delimiter) :
    Comply (service.Resolves path) pending pending []
      (Code.line (.fixed "use " :: .code service.packagePath :: tail)).lines := by
  rw [below.spelled]
  refine .single (Line.complies_of_below? below.sound shows_ found ?_ pending)
  intro imported member _ others spelled _
  rw [(ImportLine.path_of_mem_imports member).2, List.append_cancel_left_eq, same] at spelled
  exact ⟨kind, asked, spelled, fun name isName => given (ImportLine.mem_given member isName)⟩

/-- The line that imports what stands beside the interface. -/
theorem Service.package_comply (pending : List Delimiter) :
    Comply (service.Resolves path) pending pending []
      (Code.line ["use ", .code service.packagePath, "::*;"]).lines := by
  rw [below.spelled]
  refine .single (Line.complies_of_below? below.sound (.fixed .nil) rfl ?_ pending)
  rintro imported member - others spelled ⟨last, isLast, -⟩
  rw [(ImportLine.path_of_mem_imports member).2, List.append_cancel_left_eq] at spelled
  cases spelled
  cases isLast

theorem Service.errors_comply
    (asked : .errorEnvelope ∈ service.options.artifactKinds)
    (pending : List Delimiter) :
    Comply (service.Resolves path) pending pending []
      (Code.line ["use ", .code service.packagePath,
        "::error_gen::\x7bAppError, ErrorResponse\x7d;"]).lines :=
  sibling_comply below asked (.fixed .nil) rfl rfl (List.Subset.refl _) pending

theorem Service.transport_comply (pending : List Delimiter) :
    Comply (service.Resolves path) pending pending []
      (Code.line ["use ", .code service.packagePath, "::transport::transport_gen::*;"]).lines :=
  sibling_comply below (Directive.mem_of_mem_baseline mem_baseline_transport) (.fixed .nil) (by rfl)
    (by rfl) (List.nil_subset _) pending

theorem Service.httpHeaders_comply
    (asked : .tracingSetup ∈ service.options.artifactKinds)
    (http : service.options.http = true)
    (pending : List Delimiter) :
    Comply (service.Resolves path) pending pending []
      (Code.line ["use ", .code service.packagePath,
        "::otel::tracing_gen::extract_trace_from_http_headers;"]).lines := by
  have declared : ["extract_trace_from_http_headers"] ⊆ service.declaredNames .tracingSetup := by
    simp [declaredNames, http]
  exact sibling_comply below asked (.fixed .nil) (by rfl) (by rfl) (by exact declared) pending

theorem Service.natsHeaders_comply
    (asked : .tracingSetup ∈ service.options.artifactKinds)
    (nats : service.options.nats = true)
    (pending : List Delimiter) :
    Comply (service.Resolves path) pending pending []
      (Code.line ["use ", .code service.packagePath,
        "::otel::tracing_gen::extract_trace_from_nats_headers;"]).lines := by
  have declared : ["extract_trace_from_nats_headers"] ⊆ service.declaredNames .tracingSetup := by
    simp [declaredNames, nats]
  exact sibling_comply below asked (.fixed .nil) (by rfl) (by rfl) (by exact declared) pending

theorem Service.tracer_comply
    (asked : .tracingSetup ∈ service.options.artifactKinds)
    (pending : List Delimiter) :
    Comply (service.Resolves path) pending pending []
      (Code.line ["use ", .code service.packagePath, "::otel::tracing_gen::init_tracer;"]).lines := by
  have declared : ["init_tracer"] ⊆ service.declaredNames .tracingSetup := by
    simp [declaredNames]
  exact sibling_comply below asked (.fixed .nil) (by rfl) (by rfl) (by exact declared) pending

theorem Service.settings_comply
    (asked : .config ∈ service.options.artifactKinds)
    (pending : List Delimiter) :
    Comply (service.Resolves path) pending pending []
      (Code.line ["use ", .code service.packagePath,
        "::config::config_gen::\x7bprint_banner, ServiceConfig\x7d;"]).lines := by
  have declared : ["print_banner", "ServiceConfig"] ⊆ service.declaredNames .config := by
    simp [declaredNames]
  exact sibling_comply below asked (.fixed .nil) (by rfl) (by rfl) (by exact declared) pending

theorem Service.endpoints_comply
    (inner : Glyph.IsSound (.inner service.snake))
    (pending : List Delimiter) :
    Comply (service.Resolves path) pending pending []
      (Code.line ["use ", .code service.packagePath, "::transport::transport_gen::make_",
        .inner service.snake, "_endpoints;"]).lines := by
  have named : wordOf _ = "make_" ++ service.snake ++ "_endpoints" := wordOf_inner service.snake _ _
  have declared := singleton_subset named
    (show _ ∈ service.declaredNames .transport by simp [declaredNames])
  exact sibling_comply below (Directive.mem_of_mem_baseline mem_baseline_transport)
    (.fixed (.inner inner (.fixed .nil))) (by rfl) (by rfl) (by exact declared) pending

theorem Service.routes_comply
    (asked : .httpAdapter ∈ service.options.artifactKinds)
    (inner : Glyph.IsSound (.inner service.snake))
    (pending : List Delimiter) :
    Comply (service.Resolves path) pending pending []
      (Code.line ["use ", .code service.packagePath, "::transport::http::http_gen::register_",
        .inner service.snake, "_routes;"]).lines := by
  have named : wordOf _ = "register_" ++ service.snake ++ "_routes" := wordOf_inner service.snake _ _
  have declared := singleton_subset named
    (show _ ∈ service.declaredNames .httpAdapter by simp [declaredNames])
  exact sibling_comply below asked
    (.fixed (.inner inner (.fixed .nil))) (by rfl) (by rfl) (by exact declared) pending

theorem Service.implementation_comply
    (name : Glyph.IsSound (.name service.name))
    (pending : List Delimiter) :
    Comply (service.Resolves path) pending pending []
      (Code.line ["use ", .code service.packagePath, "::implementation_gen::", .name service.name,
        "Service;"]).lines := by
  have named : wordOf _ = service.name ++ "Service" := wordOf_name service.name _
  have declared := singleton_subset named
    (show _ ∈ service.declaredNames .implementation by simp [declaredNames])
  exact sibling_comply below (Directive.mem_of_mem_baseline mem_baseline_implementation)
    (.fixed (.name name (.fixed .nil))) (by rfl) (by rfl) (by exact declared) pending

theorem Service.logging_comply
    (asked : .loggingMiddleware ∈ service.options.artifactKinds)
    (name : Glyph.IsSound (.name service.name))
    (pending : List Delimiter) :
    Comply (service.Resolves path) pending pending []
      (Code.line ["use ", .code service.packagePath, "::middleware::logging_gen::", .name service.name,
        "LoggingMiddleware;"]).lines := by
  have named : wordOf _ = service.name ++ "LoggingMiddleware" := wordOf_name service.name _
  have declared := singleton_subset named
    (show _ ∈ service.declaredNames .loggingMiddleware by simp [declaredNames])
  exact sibling_comply below asked
    (.fixed (.name name (.fixed .nil))) (by rfl) (by rfl) (by exact declared) pending

theorem Service.tracing_comply
    (asked : .tracingMiddleware ∈ service.options.artifactKinds)
    (name : Glyph.IsSound (.name service.name))
    (pending : List Delimiter) :
    Comply (service.Resolves path) pending pending []
      (Code.line ["use ", .code service.packagePath, "::middleware::tracing_gen::", .name service.name,
        "TracingMiddleware;"]).lines := by
  have named : wordOf _ = service.name ++ "TracingMiddleware" := wordOf_name service.name _
  have declared := singleton_subset named
    (show _ ∈ service.declaredNames .tracingMiddleware by simp [declaredNames])
  exact sibling_comply below asked
    (.fixed (.name name (.fixed .nil))) (by rfl) (by rfl) (by exact declared) pending

end Siblings

namespace Artifact.Template

variable
  {allowed : Import → Prop}
  {service : Service}
  {method : Method}

/-! ### Files that are the same for every service -/

set_option maxRecDepth 4000 in
theorem isSound_banner : Glyph.IsSound (.code banner) :=
  IsCode.literal (by decide)

theorem config_comply
    {package : String}
    (foreign : AllowsForeign allowed)
    (described : Glyph.IsSound (.code (description package))) :
    Comply allowed [] [] ["ServiceConfig", "print_banner"]
      ((config package).flatMap Code.lines) := by
  have banner := isSound_banner
  apply Outlined.comply_of_eq foreign
  case outlined =>
    unfold config
    repeat' first | with_reducible constructor | with_reducible assumption | rfl
  case same => rfl

theorem errorEnvelope_comply (foreign : AllowsForeign allowed) :
    Comply allowed [] [] ["AppError", "ErrorResponse"] (errorEnvelope.flatMap Code.lines) := by
  apply Outlined.comply_of_eq foreign
  case outlined =>
    unfold errorEnvelope
    repeat' first | with_reducible constructor | with_reducible assumption | rfl
  case same => rfl

theorem tracerSetup_comply (foreign : AllowsForeign allowed) :
    Comply allowed [] [] ["init_tracer"] (tracerSetup.flatMap Code.lines) := by
  apply Outlined.comply_of_eq foreign
  case outlined =>
    unfold tracerSetup
    repeat' first | with_reducible constructor | with_reducible assumption | rfl
  case same => rfl

theorem httpPropagation_comply (foreign : AllowsForeign allowed) :
    Comply allowed [] [] ["extract_trace_from_http_headers", "inject_trace_to_http_headers"]
      (httpPropagation.flatMap Code.lines) := by
  apply Outlined.comply_of_eq foreign
  case outlined =>
    unfold httpPropagation
    repeat' first | with_reducible constructor | with_reducible assumption | rfl
  case same => rfl

theorem natsPropagation_comply (foreign : AllowsForeign allowed) :
    Comply allowed [] [] ["extract_trace_from_nats_headers", "inject_trace_to_nats_headers"]
      (natsPropagation.flatMap Code.lines) := by
  apply Outlined.comply_of_eq foreign
  case outlined =>
    unfold natsPropagation
    repeat' first | with_reducible constructor | with_reducible assumption | rfl
  case same => rfl

theorem tracingSetup_comply (foreign : AllowsForeign allowed) (http nats : Bool) :
    Comply allowed [] []
      (["init_tracer"]
        ++ (if http then ["extract_trace_from_http_headers", "inject_trace_to_http_headers"] else [])
        ++ (if nats then ["extract_trace_from_nats_headers", "inject_trace_to_nats_headers"] else []))
      ((tracingSetup http nats).flatMap Code.lines) := by
  have propagation := (Comply.when http (httpPropagation_comply foreign)).append
    (Comply.when nats (natsPropagation_comply foreign))
  simpa [tracingSetup] using (tracerSetup_comply foreign).append propagation

/-! ### Methods -/

section Method

variable
  (foreign : AllowsForeign allowed)
  (sound : service.IsSound)
  (soundMethod : method.IsSound service)
  (pending : List Delimiter)

theorem defaultContext_cases (method : Method) :
    method.defaultContext = "Default::default(), " ∨ method.defaultContext = "" := by
  rw [Method.defaultContext]
  split
  · exact .inl rfl
  · exact .inr rfl

theorem awaiting_cases (method : Method) :
    method.awaiting = ".await" ∨ method.awaiting = "" := by
  rw [Method.awaiting]
  split
  · exact .inl rfl
  · exact .inr rfl

include foreign sound soundMethod

theorem httpHandler_comply :
    Comply allowed pending pending [] ((httpHandler service method).flatMap Code.lines) := by
  obtain ⟨name, inner, prose, -, -, -⟩ := sound
  obtain ⟨methodName, -, request, response, handler, encoder, -, -, -, -, -, -⟩ := soundMethod
  unfold httpHandler
  rcases defaultContext_cases method with context | context
  all_goals
    rw [context]
    apply Outlined.quiet foreign
    repeat' first | with_reducible constructor | with_reducible assumption | rfl | intro _

omit sound in
theorem httpRoute_comply :
    Comply allowed pending pending []
      ([Code.line [".route(\"/", .prose (Text.kebabCase method.name), "\", post(",
        .code (service.handlerName method), "::<S>))"]].flatMap Code.lines) := by
  have route := soundMethod.route
  have handler := soundMethod.handler
  apply Outlined.quiet foreign
  repeat' first | with_reducible constructor | with_reducible assumption | rfl

theorem natsSubscription_comply :
    Comply allowed pending pending [] ((natsSubscription service method).flatMap Code.lines) := by
  obtain ⟨name, inner, prose, prefixed, -, -⟩ := sound
  obtain ⟨methodName, -, request, response, handler, encoder, -, -, -, -, -, -⟩ := soundMethod
  unfold natsSubscription
  rcases defaultContext_cases method with context | context
  all_goals
    rw [context]
    apply Outlined.quiet foreign
    repeat' first
      | apply Line.Shows.word (by with_reducible assumption)
      | with_reducible constructor | with_reducible assumption | rfl | intro _

theorem natsResponseEncoder_comply :
    Comply allowed pending pending []
      ((natsResponseEncoder service method).flatMap Code.lines) := by
  obtain ⟨name, inner, prose, prefixed, -, -⟩ := sound
  obtain ⟨methodName, -, request, response, handler, encoder, -, -, -, -, -, -⟩ := soundMethod
  apply Outlined.quiet foreign
  unfold natsResponseEncoder
  repeat' first | with_reducible constructor | with_reducible assumption | rfl

theorem todoMethod_comply :
    Comply allowed pending pending [] (todoMethod service.name method).lines := by
  obtain ⟨name, -, -, -, -, -⟩ := sound
  obtain ⟨methodName, -, -, -, -, -, signature, -, -, -, -, -⟩ := soundMethod
  apply Outlined.quiet_single foreign
  unfold todoMethod
  repeat' first | with_reducible constructor | with_reducible assumption | rfl

theorem loggedMethod_comply :
    Comply allowed pending pending [] (loggedMethod service.name method).lines := by
  obtain ⟨name, -, -, -, -, -⟩ := sound
  obtain ⟨methodName, -, -, -, -, -, signature, called, -, logged, -, -⟩ := soundMethod
  unfold loggedMethod
  rcases awaiting_cases method with waits | waits
  all_goals
    rw [waits]
    apply Outlined.quiet_single foreign
    repeat' first | with_reducible constructor | with_reducible assumption | rfl | intro _

omit sound in
theorem spannedCall_comply :
    Comply allowed pending pending [] (spannedCall method).lines := by
  obtain ⟨methodName, -, -, -, -, -, -, called, -, -, -, -⟩ := soundMethod
  unfold spannedCall
  split
  all_goals
    apply Outlined.quiet_single foreign
    repeat' first | with_reducible constructor | with_reducible assumption | rfl

theorem spannedMethod_comply :
    Comply allowed pending pending [] (spannedMethod service.snake method).lines := by
  have call := spannedCall_comply foreign soundMethod (.brace :: pending)
  obtain ⟨-, -, prose, -, -, -⟩ := sound
  obtain ⟨methodName, -, -, -, -, -, signature, -, -, -, -, -⟩ := soundMethod
  apply Outlined.quiet_single foreign
  unfold spannedMethod
  repeat' first
    | apply Outlined.known (by with_reducible assumption)
    | with_reducible constructor | with_reducible assumption | rfl | intro _

omit sound in
theorem endpointAnswer_comply :
    Comply allowed pending pending [] (endpointAnswer service method).lines := by
  obtain ⟨methodName, -, -, response, -, -, -, -, requested, -, -, -⟩ := soundMethod
  unfold endpointAnswer serviceCall
  rcases awaiting_cases method with waits | waits
  all_goals
    rw [waits]
    dsimp only
    split
    case isTrue =>
      apply Outlined.quiet_single foreign
      repeat' first | with_reducible constructor | with_reducible assumption | rfl
    case isFalse =>
      apply Outlined.quiet foreign
      repeat' first | with_reducible constructor | with_reducible assumption | rfl

omit sound in
theorem endpoint_comply :
    Comply allowed pending pending [] ((endpoint service method).flatMap Code.lines) := by
  have answer := endpointAnswer_comply foreign soundMethod (.brace :: pending)
  obtain ⟨methodName, -, request, response, -, -, -, -, -, -, -, parameters⟩ := soundMethod
  have argument : (if method.arguments.isEmpty then "_request" else "request") = "_request"
      ∨ (if method.arguments.isEmpty then "_request" else "request") = "request" := by
    split
    · exact .inl rfl
    · exact .inr rfl
  unfold endpoint
  cases given : method.context with
  | none =>
      rcases argument with named | named
      all_goals
        simp only [named, List.cons_append, List.nil_append]
        apply Outlined.quiet foreign
        repeat' first
          | apply Outlined.known (by with_reducible assumption)
          | with_reducible constructor | with_reducible assumption | rfl
  | some context =>
      obtain ⟨contextName, contextType⟩ := parameters context (by simp [Method.forwarded, given])
      rcases argument with named | named
      all_goals
        simp only [named, List.cons_append, List.nil_append]
        apply Outlined.quiet foreign
        repeat' first
          | apply Outlined.known (by with_reducible assumption)
          | with_reducible constructor | with_reducible assumption | rfl

omit sound in
theorem requestField_comply
    {argument : Parameter}
    (member : argument ∈ method.arguments) :
    Comply allowed pending pending []
      ([Code.line ["pub ", .name argument.name, ": ", .code argument.type.text, ","]].flatMap
        Code.lines) := by
  obtain ⟨name, type⟩ := soundMethod.parameters argument (List.mem_append_right _ member)
  apply Outlined.quiet foreign
  repeat' first | with_reducible constructor | with_reducible assumption | rfl

theorem envelopes_comply :
    Comply allowed pending pending [] ((envelopes service method).flatMap Code.lines) := by
  have fields := Comply.each fun (argument : Parameter) member =>
    requestField_comply foreign soundMethod (.brace :: pending) member
  obtain ⟨name, -, -, -, -, -⟩ := sound
  obtain ⟨methodName, -, request, response, -, -, -, -, -, -, value, -⟩ := soundMethod
  apply Outlined.quiet foreign
  unfold envelopes
  repeat' first
    | apply Outlined.known (by with_reducible assumption)
    | with_reducible constructor | with_reducible assumption | rfl

end Method

/-! ### Files of a service -/

section Service

theorem methods_comply
    {pending : List Delimiter}
    {methods : List Method}
    {build : Method → Code}
    (inside : ∀ method ∈ methods, Comply allowed pending pending [] (build method).lines) :
    ∀ part ∈ methods.map build, Comply allowed pending pending [] part.lines := by
  intro part member
  obtain ⟨method, isMethod, rfl⟩ := List.mem_map.mp member
  exact inside method isMethod

variable
  {path : ModulePath}
  (below : service.IsBelow path)
  (sound : service.IsSound)

include below sound

theorem implementation_comply :
    Comply (service.Resolves path) [] [] (service.declaredNames .implementation)
      ((implementation service).flatMap Code.lines) := by
  have foreign := service.allowsForeign path
  have package := service.package_comply below []
  have todo := Comply.members foreign
    (.fixed (.name sound.name (.fixed (.name sound.name (.fixed .nil))))
      : Line.Shows ["impl ", .name service.name, " for ", .name service.name, "Service"] _)
    rfl rfl (methods_comply fun method member =>
      todoMethod_comply foreign sound (sound.methods method member) [.brace])
  obtain ⟨name, -, -, -, -, -⟩ := sound
  unfold implementation asyncTraitAttribute
  dsimp only
  cases service.methods.isEmpty <;> cases service.interface.asyncTrait
  all_goals
    simp only [Bool.false_eq_true, if_false, if_true]
    apply Outlined.comply_of_eq foreign
    case outlined =>
      repeat' first
        | apply Outlined.known (by with_reducible assumption)
        | with_reducible constructor | with_reducible assumption | rfl | intro _
    case same =>
      have named : wordOf _ = service.name ++ "Service" := wordOf_name service.name _
      exact congrArg (· :: []) named

theorem loggingMiddleware_comply :
    Comply (service.Resolves path) [] [] (service.declaredNames .loggingMiddleware)
      ((loggingMiddleware service).flatMap Code.lines) := by
  have foreign := service.allowsForeign path
  have package := service.package_comply below []
  have logged := Comply.members foreign
    (.fixed (.name sound.name (.fixed (.name sound.name (.fixed (.name sound.name (.fixed .nil))))))
      : Line.Shows ["impl<S: ", .name service.name, "> ", .name service.name, " for ",
          .name service.name, "LoggingMiddleware<S>"] _)
    rfl rfl (methods_comply fun method member =>
      loggedMethod_comply foreign sound (sound.methods method member) [.brace])
  obtain ⟨name, -, -, -, -, -⟩ := sound
  apply Outlined.comply_of_eq foreign
  case outlined =>
    unfold loggingMiddleware asyncTraitAttribute
    repeat' first
      | apply Outlined.known (by with_reducible assumption)
      | with_reducible constructor | with_reducible assumption | rfl | intro _
  case same =>
    have named : wordOf _ = service.name ++ "LoggingMiddleware" := wordOf_name service.name _
    exact congrArg (· :: []) named

theorem tracingMiddleware_comply :
    Comply (service.Resolves path) [] [] (service.declaredNames .tracingMiddleware)
      ((tracingMiddleware service).flatMap Code.lines) := by
  have foreign := service.allowsForeign path
  have package := service.package_comply below []
  have spanned := Comply.members foreign
    (.fixed (.name sound.name (.fixed (.name sound.name (.fixed (.name sound.name (.fixed .nil))))))
      : Line.Shows ["impl<S: ", .name service.name, "> ", .name service.name, " for ",
          .name service.name, "TracingMiddleware<S>"] _)
    rfl rfl (methods_comply fun method member =>
      spannedMethod_comply foreign sound (sound.methods method member) [.brace])
  obtain ⟨name, -, -, -, -, -⟩ := sound
  apply Outlined.comply_of_eq foreign
  case outlined =>
    unfold tracingMiddleware asyncTraitAttribute
    repeat' first
      | apply Outlined.known (by with_reducible assumption)
      | with_reducible constructor | with_reducible assumption | rfl | intro _
  case same =>
    have named : wordOf _ = service.name ++ "TracingMiddleware" := wordOf_name service.name _
    exact congrArg (· :: []) named

theorem transport_comply :
    Comply (service.Resolves path) [] [] (service.declaredNames .transport)
      ((transport service).flatMap Code.lines) := by
  have foreign := service.allowsForeign path
  have package := service.package_comply below []
  have endpoints := Comply.each fun method member =>
    endpoint_comply foreign (sound.methods method member) [.brace]
  have enveloped := Comply.each fun method member =>
    envelopes_comply foreign sound (sound.methods method member) []
  obtain ⟨name, inner, -, -, -, -⟩ := sound
  apply Outlined.comply_of_eq foreign
  case outlined =>
    unfold transport
    repeat' first
      | apply Outlined.known (by with_reducible assumption)
      | with_reducible constructor | with_reducible assumption | rfl
  case same =>
    have struct : wordOf _ = service.name ++ "Endpoints" := wordOf_name service.name _
    have named : wordOf _ = "make_" ++ service.snake ++ "_endpoints" :=
      wordOf_inner service.snake _ _
    rw [Service.declaredNames, ← struct, ← named]
    rfl

theorem httpAdapter_comply (asked : service.options.http = true) :
    Comply (service.Resolves path) [] [] (service.declaredNames .httpAdapter)
      ((httpAdapter service).flatMap Code.lines) := by
  have foreign := service.allowsForeign path
  have package := service.package_comply below []
  have errors := service.errors_comply below (Directive.mem_of_has .http asked (by decide)) []
  have endpoints := service.transport_comply below []
  have headers (tracing : service.options.tracing = true) :=
    service.httpHeaders_comply below (Directive.mem_of_has .tracing tracing (by decide))
      asked []
  have routes := Comply.each fun method member =>
    httpRoute_comply foreign (sound.methods method member) [.brace]
  have handlers := Comply.each fun method member =>
    httpHandler_comply foreign sound (sound.methods method member) []
  obtain ⟨name, inner, -, -, -, -⟩ := sound
  apply Outlined.comply_of_eq foreign
  case outlined =>
    unfold httpAdapter
    repeat' first
      | apply Outlined.known (by with_reducible assumption)
      | apply Outlined.known (by with_reducible exact headers ‹_›)
      | with_reducible constructor | with_reducible assumption | rfl | intro _
  case same =>
    have named : wordOf _ = "register_" ++ service.snake ++ "_routes" :=
      wordOf_inner service.snake _ _
    exact congrArg (· :: []) named

theorem natsAdapter_comply (asked : service.options.nats = true) :
    Comply (service.Resolves path) [] [] (service.declaredNames .natsAdapter)
      ((natsAdapter service).flatMap Code.lines) := by
  have foreign := service.allowsForeign path
  have package := service.package_comply below []
  have errors := service.errors_comply below (Directive.mem_of_has .nats asked (by decide)) []
  have endpoints := service.transport_comply below []
  have headers (tracing : service.options.tracing = true) :=
    service.natsHeaders_comply below (Directive.mem_of_has .tracing tracing (by decide))
      asked []
  have subscriptions := Comply.each fun method member =>
    natsSubscription_comply foreign sound (sound.methods method member) [.brace]
  have encoders := Comply.each fun method member =>
    natsResponseEncoder_comply foreign sound (sound.methods method member) []
  obtain ⟨name, inner, prose, prefixed, -, -⟩ := sound
  apply Outlined.comply_of_eq foreign
  case outlined =>
    unfold natsAdapter
    repeat' first
      | apply Outlined.known (by with_reducible assumption)
      | apply Outlined.known (by with_reducible exact headers ‹_›)
      | apply Line.Shows.word (by with_reducible assumption)
      | with_reducible constructor | with_reducible assumption | rfl | intro _
  case same => rfl

theorem httpEntryPoint_comply (asked : service.options.http = true) :
    Comply (service.Resolves path) [] [] (service.declaredNames .httpEntryPoint)
      ((httpEntryPoint service).flatMap Code.lines) := by
  have foreign := service.allowsForeign path
  have settings := service.settings_comply below (Directive.mem_of_has .http asked (by decide)) []
  have implementation := service.implementation_comply below sound.name []
  have routes := service.routes_comply below
    (Directive.mem_of_has .http asked (by decide)) sound.inner []
  have endpoints := service.endpoints_comply below sound.inner []
  have logging (on : service.options.logging = true) :=
    service.logging_comply below (Directive.mem_of_has .logging on (by decide)) sound.name []
  have tracing (on : service.options.tracing = true) :=
    service.tracing_comply below (Directive.mem_of_has .tracing on (by decide)) sound.name []
  have tracer (on : service.options.tracing = true) :=
    service.tracer_comply below (Directive.mem_of_has .tracing on (by decide)) []
  obtain ⟨name, inner, prose, -, -, -⟩ := sound
  apply Outlined.comply_of_eq foreign
  case outlined =>
    unfold httpEntryPoint
    repeat' first
      | apply Outlined.known (by with_reducible assumption)
      | apply Outlined.known (by with_reducible exact logging ‹_›)
      | apply Outlined.known (by with_reducible exact tracing ‹_›)
      | apply Outlined.known (by with_reducible exact tracer ‹_›)
      | with_reducible constructor | with_reducible assumption | rfl | intro _
  case same =>
    have named : wordOf _ = service.name ++ "HttpRunArgs" := wordOf_name service.name _
    exact congrArg (· :: []) named

end Service

end Artifact.Template

end Scaffold
