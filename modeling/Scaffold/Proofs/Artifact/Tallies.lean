import Mathlib
import Scaffold.Proofs.Artifact.Endpoint
import Scaffold.Proofs.Artifact.Handler

/-!
Contract: what is counted of the files of a service.

Owns:
- the structures, functions and constants that the file of each kind declares, and the functions of
  its implementations;
- that the lines of the NATS adapter, of the HTTP entry point, of the settings and of the error
  envelope are read as just these.

Does not own: that their names are apart.
-/

namespace Scaffold

open Source Source.Scan Artifact Text

/-! ### Tallies -/

namespace Service

/-- What is counted of the NATS adapter. -/
def natsTallies (service : Service) : List Tally :=
  .constant service.prefixName
    :: .function ("register_" ++ service.snake ++ "_subscribers")
    :: (service.methods.map (fun method => .function (service.encoderName method))
      ++ [.function ("encode_" ++ service.snake ++ "_error")])

/-- What is counted of the HTTP entry point. -/
def entryPointTallies (service : Service) : List Tally :=
  [.struct (service.name ++ "HttpRunArgs"), .function ("run_" ++ service.snake ++ "_http"),
    .function "shutdown_signal"]

end Service

/-- What is counted of the settings. -/
def configTallies : List Tally :=
  [.constant "BANNER", .constant "APPLICATION_DESCRIPTION", .struct "ServiceConfig",
    .block ["default"], .block ["from_env"], .function "print_banner"]

/-! ### Listings -/

/-- What is counted of code whose declarations are listed. -/
theorem Artifact.Listing.tallies
    {α : Type}
    {member? : List Token → Option α}
    {name : α → String}
    {found : List (Outline α)}
    {parts : List Code}
    (listing : Listing ';' (RowEntry.survey? member?) (found.map (Outline.survey name)) parts) :
    Listing ';' RowEntry.tally? (found.filterMap (Outline.tally? name)) parts := by
  refine Reads.mono listing fun _ lists => ?_
  have picked := lists.pick RowEntry.tally_of_survey?
  rwa [List.filterMap_map] at picked

/-! ### Settings -/

/-- The literal of a banner or of a description is one token. -/
theorem isRead_of_literal
    {spelling : String}
    (passes : ∀ rest, Stops rest → Passes (spelling.toList ++ rest) [.literal spelling] rest) :
    IsRead (· = [.literal ""]) spelling :=
  fun rest stops => ⟨_, passes rest stops, rfl⟩

set_option maxRecDepth 4000 in
theorem isRead_banner : IsRead (· = [.literal ""]) Template.banner :=
  isRead_of_literal fun _ => Passes.literal (by decide)

/-- A package whose name ends no string is described in one. -/
theorem isRead_description
    {package : String}
    (described : ∀ char ∈ package.toList, char ∉ specialChars) :
    Glyph.IsSound (.code (Template.description package))
      ∧ IsRead (· = [.literal ""]) (Template.description package) := by
  have ending : IsInside (" service".toList ++ []) := IsInside.nil.append (by simp [specialChars])
  have inside : IsInside (package.toList ++ (" service".toList ++ [])) := ending.append described
  have spelled : (Template.description package).toList
      = '"' :: (package.toList ++ (" service".toList ++ []) ++ ['"']) := by
    simp [Template.description]
  constructor
  · show IsCode (Template.description package).toList
    rw [spelled]
    exact .string inside
  · refine isRead_of_literal fun rest stops => Passes.read (by rw [spelled]; simp) ?_
    have read := inside.read (ends_of_stops stops).noLetter
    rw [spelled]
    simpa using read

/-- The head of a constant with a string. -/
def constantTokens (name : String) : List Token :=
  [.word "pub", .word "const", .word name, .mark ':' .alone, .mark '&' .alone, .word "str",
    .mark '=' .alone]

theorem enlists_constant
    {name : String}
    {lead : List Token}
    (flatLead : IsFlat ';' lead)
    (quiet : ∀ rest, declaredAhead (Token.surface 0 (lead ++ rest)) = declaredAhead (Token.surface 0 rest))
    (plain : name ∉ qualifiedWords) :
    Enlists ';' RowEntry.tally? [.constant name]
      (lead ++ (constantTokens name ++ [.literal ""]) ++ [.mark ';' .alone]) := by
  have flat : IsFlat ';' (lead ++ (constantTokens name ++ [.literal ""])) := flatLead.append (by rfl)
  have declares : declaredAhead (Token.surface 0 (lead ++ (constantTokens name ++ [.literal ""])))
      = some ⟨"const", name⟩ := by
    rw [quiet]
    exact if_neg fun isQualified => plain (List.contains_iff_mem.mp isQualified)
  have tally : RowEntry.tally? ⟨lead ++ (constantTokens name ++ [.literal ""]), none⟩
      = some (.constant name) := by
    rw [RowEntry.tally?, RowEntry.declared?, declares]
    rfl
  have lists : Enlists ';' RowEntry.tally? _ _ := Enlists.separated flat .alone
  rw [tally] at lists
  exact lists

/-- A line that declares a constant with a literal. -/
theorem constant_tallied
    {name value : String}
    {line : Line}
    {front back : List Glyph}
    (shows_ : line.Shows (front ++ .code value :: back))
    (read : IsRead (· = [.literal ""]) value)
    (found : Glyph.around? (front ++ .code value :: back)
      = some (constantTokens name, value, .known ';' :: [], [.mark ';' .alone]))
    (plain : name ∉ qualifiedWords) :
    Listing ';' RowEntry.tally? [.constant name] [.line line] := by
  refine (Reads.single (read.inLine shows_ found (by decide))).mono ?_
  rintro _ ⟨_, rfl, rfl⟩
  exact enlists_constant ((by rfl) : IsFlat ';' []) (fun _ => rfl) plain

/-- The lines of the settings are counted. -/
theorem config_tallied
    {package : String}
    (described : ∀ char ∈ package.toList, char ∉ specialChars) :
    Listing ';' RowEntry.tally? configTallies (Template.config package) := by
  have isBanner := Template.isSound_banner
  obtain ⟨isDescription, readDescription⟩ := isRead_description described
  have banner : Line.Shows ["pub const BANNER: &str = ", .code Template.banner, ";"] _ :=
    .fixed (.code isBanner (.fixed .nil))
  have description : Line.Shows
      ["pub const APPLICATION_DESCRIPTION: &str = ", .code (Template.description package), ";"] _ :=
    .fixed (.code isDescription (.fixed .nil))
  unfold Template.config
  show Listing _ _ ([] ++ ([_] ++ ([] ++ ([_] ++ ([_, _] ++ ([_] ++ [_]))))))
    ([_, _] ++ ([_] ++ ([_] ++ ([_] ++ ([_, _, _, _, _, _] ++ ([_, _] ++ [_, _]))))))
  refine Listing.append ?uses (Listing.append (constant_tallied banner isRead_banner (by rfl) (by decide))
    (Listing.append ?gap (Listing.append
      (constant_tallied description readDescription (by rfl) (by decide))
      (Listing.append ?type (Listing.append ?environment ?printed)))))
  case uses | gap | type | environment | printed =>
    apply Listing.known
    · repeat' first | with_reducible constructor | with_reducible assumption | rfl
    · exact ⟨by decide +kernel, by decide +kernel, by decide +kernel⟩

/-! ### The NATS adapter -/

section Nats

variable
  {service : Service}
  {path : ModulePath}

/-- The functions that subscribe the endpoints and encode what they answer. -/
theorem natsImports_tallied (below : service.IsBelow path) :
    Listing ';' RowEntry.tally? []
      ["use futures::StreamExt;",
       .line ["use ", .code service.packagePath, "::*;"],
       .line ["use ", .code service.packagePath, "::error_gen::\x7bAppError, ErrorResponse\x7d;"],
       .line ["use ", .code service.packagePath, "::transport::transport_gen::*;"],
       .when service.options.tracing
         ["use tracing::Instrument;",
          "use tracing_opentelemetry::OpenTelemetrySpanExt;",
          .line ["use ", .code service.packagePath,
            "::otel::tracing_gen::extract_trace_from_nats_headers;"]]] := by
  show Listing _ _ ([] ++ ([] ++ ([] ++ ([] ++ [])))) ([_] ++ ([_] ++ ([_] ++ ([_] ++ [_]))))
  refine Listing.append ?foreign (Listing.append ?package
    (Listing.append ?errors (Listing.append ?endpoints ?traced)))
  case foreign => exact .known (.line (.fixed .nil) rfl .nil) ⟨by cbv, by cbv, by cbv⟩
  case package | errors | endpoints =>
    exact Service.import_listing below (.fixed .nil) (by rfl) (by cbv) (fun _ => by cbv)
      fun _ => by cbv
  case traced =>
    have traced : Listing ';' RowEntry.tally? []
        ["use tracing::Instrument;",
         "use tracing_opentelemetry::OpenTelemetrySpanExt;",
         .line ["use ", .code service.packagePath,
           "::otel::tracing_gen::extract_trace_from_nats_headers;"]] := by
      show Listing _ _ ([] ++ []) ([_, _] ++ [_])
      refine Listing.append ?_ (Service.import_listing below (.fixed .nil) (by rfl) (by cbv)
        (fun _ => by cbv) fun _ => by cbv)
      apply Listing.known
      · repeat' first | with_reducible constructor | rfl
      · exact ⟨by cbv, by cbv, by cbv⟩
    cases service.options.tracing with
    | false => exact Listing.when false traced
    | true => exact Listing.when true traced

/-- The subscription of a method begins with a statement, whatever goes on behind it. -/
theorem subscription_statements
    {method : Method}
    {below : Code}
    (sound : service.IsSound)
    (soundMethod : method.IsSound service)
    (more : Comply (fun _ => True) [] [] [] below.lines) :
    Reads HoldsStatements
      ((Template.natsSubscription service method ++ [below, .line "Ok(())"]).flatMap Code.lines) := by
  obtain ⟨name, inner, prose, prefixed, -, -⟩ := sound
  obtain ⟨methodName, -, request, response, handler, encoder, -, -, -, -, -, -⟩ := soundMethod
  unfold Template.natsSubscription
  show Reads _ (List.flatMap _ ([_] ++ [_, _, _, _, _]))
  apply Sketched.statements
  case sketched =>
    repeat' first
      | apply Line.Shows.word (by with_reducible assumption)
      | with_reducible constructor | with_reducible assumption | rfl
  case begins => rfl
  case balanced => rfl
  case others =>
    rcases Template.defaultContext_cases method with context | context
    all_goals
      rw [context]
      apply Outlined.balanced
      repeat' first
        | apply Outlined.known (by with_reducible assumption)
        | with_reducible constructor | with_reducible assumption | rfl | intro _

/-- The body of the function that subscribes the endpoints holds statements alone, whether there are
methods or not. -/
theorem subscriptions_statements (sound : service.IsSound) :
    Reads HoldsStatements
      ([Code.each service.methods (Template.natsSubscription service), "Ok(())"].flatMap Code.lines) := by
  have methods := sound.methods
  cases same : service.methods with
  | nil =>
      have ended : Sketched _ [("Ok(())" : Code)] := .line (.fixed .nil) (by rfl) .nil
      exact ended.holds ⟨by cbv, by cbv⟩
  | cons method others =>
      rw [same, List.forall_mem_cons] at methods
      have more : Comply (fun _ => True) [] [] []
          (Code.each others (Template.natsSubscription service)).lines :=
        Comply.each fun method member => Template.natsSubscription_comply (fun _ _ => trivial) sound
          (methods.2 method member) []
      simpa [Code.each, Code.all] using subscription_statements sound methods.1 more

/-- The constant that the subscriptions are named by. -/
theorem natsPrefix_tallied (sound : service.IsSound) :

    Listing ';' RowEntry.tally? [.constant service.prefixName]
      ["",
       .line ["/// Subject prefix and queue group for [`", .name service.name, "`] subscribers."],
       .line ["pub const ", .code service.prefixName, ": &str = \"", .prose service.snake, "\";"]] := by
  have plain : service.prefixName ∉ qualifiedWords := by
    intro member
    have short : ∀ word ∈ qualifiedWords, word.length ≤ 6 := by decide
    have long : 15 ≤ service.prefixName.length := by
      rw [Service.prefixName, String.length_append]
      exact Nat.le_add_left 15 _
    exact absurd (short _ member) (by omega)
  have note : Line.Shows
      ["/// Subject prefix and queue group for [`", .name service.name, "`] subscribers."] _ :=
    .fixed (.name sound.name (.fixed .nil))
  have constant : Line.Shows
      ["pub const ", .code service.prefixName, ": &str = \"", .prose service.snake, "\";"] _ :=
    .fixed (.word sound.prefixed (.fixed (.prose sound.prose (.fixed .nil))))
  have lists := enlists_constant ((by rfl) : IsFlat ';' ((Passes.noteTokens []).map Token.sketch)) (fun _ => rfl)
    plain
  exact .known (.line (.fixed .nil) rfl (.line note (by rfl) (.line constant (by rfl) .nil))) lists

/-- The function that subscribes the endpoints. -/
theorem natsRegister_tallied (sound : service.IsSound) :
    Listing ';' RowEntry.tally? [.function ("register_" ++ service.snake ++ "_subscribers")]
      ["",
       .line ["/// Subscribe every [`", .name service.name, "`] endpoint on `<prefix>.<method>`."],
       "///",
       "/// Each subscription is served by its own task; replies go to the request's",
       "/// reply subject.",
       .nest ["pub async fn register_", .inner service.snake, "_subscribers<S>("]
         [.line ["endpoints: ", .name service.name, "Endpoints<S>,"],
          "client: async_nats::Client,"]
         ") -> Result<(), async_nats::SubscribeError>",
       .hang "where"
         [.line ["S: ", .name service.name, " + Send + Sync + 'static,"]],
       .nest "\x7b"
         [.each service.methods (Template.natsSubscription service),
          "Ok(())"]
         "\x7d"] := by
  have body := subscriptions_statements sound
  have opens : Line.Reads (Opens (· = [])) ["\x7b"] := Line.Shows.opens (.fixed .nil) rfl
  obtain ⟨name, inner, -, -, -, -⟩ := sound
  have blocks := Reads.nest opens body
  generalize service.snake = snake at inner
  show Listing _ _ _ ([_, _, _, _, _, _, _] ++ [_])
  apply Listing.function
  case blocks => exact blocks
  case leads => repeat' first | with_reducible constructor | with_reducible assumption | rfl
  case flat => cbv
  case declares => cbv

/-- The function that encodes what a method answers. -/
theorem natsEncoder_tallied
    {method : Method}
    (sound : service.IsSound)
    (soundMethod : method.IsSound service)
    (encoder : Glyph.IsSound (.name (service.encoderName method))) :
    Listing ';' RowEntry.tally? [.function (service.encoderName method)]
      (Template.natsResponseEncoder service method) := by
  obtain ⟨name, inner, -, -, -, -⟩ := sound
  obtain ⟨methodName, -, request, response, -, -, -, -, -, -, -, -⟩ := soundMethod
  unfold Template.natsResponseEncoder
  dsimp only
  generalize service.encoderName method = encoderName at encoder
  generalize service.responseType method = responseType at response
  generalize service.snake = snake at inner
  show Listing _ _ _ ([_] ++ [_])
  have opens : Line.Reads
      (Opens (· = [.word "fn", .word encoderName, .opening .parenthesis, .word "response",
        .mark ':' .alone, .word responseType, .closing .parenthesis, .mark '-' .alone,
        .mark '>' .alone, .word "Vec", .mark '<' .alone, .word "u8", .mark '>' .alone]))
      ["fn ", .code encoderName, "(response: ", .name responseType, ") -> Vec<u8>", " \x7b"] :=
    Line.Shows.opens (.fixed (.word encoder (.fixed (.name response (.fixed (.fixed .nil)))))) (by rfl)
  apply Listing.function
  case blocks =>
    refine Reads.nest opens ?_
    apply Sketched.holds
    case sketched => repeat' first | with_reducible constructor | with_reducible assumption | rfl
    case known => exact ⟨by cbv, by cbv⟩
  case leads => exact .line (.fixed .nil) rfl .nil
  case flat => cbv
  case declares => cbv

/-- The function that encodes errors. -/
theorem natsError_tallied {snake : String} (inner : Glyph.IsSound (.inner snake)) :
    Listing ';' RowEntry.tally? [.function ("encode_" ++ snake ++ "_error")]
      ["",
       .block ["fn encode_", .inner snake, "_error(error: AppError) -> Vec<u8>"]
         ["serde_json::to_vec(&ErrorResponse::from(error)).unwrap_or_default()"]] := by
  apply Listing.known
  · repeat' first | with_reducible constructor | with_reducible assumption | rfl
  · exact ⟨by cbv, by cbv, by cbv⟩

/-- The lines of the NATS adapter are counted. -/
theorem natsAdapter_tallied
    (below : service.IsBelow path)
    (sound : service.IsSound)
    (snake : isWord service.snake = true)
    (letters : ∀ method ∈ service.methods, ∀ char ∈ method.name.toList,
      continuesIdentifier char = true) :
    Listing ';' RowEntry.tally? service.natsTallies (Template.natsAdapter service) := by
  have encoders := Listing.each_single fun method member =>
    natsEncoder_tallied sound (sound.methods method member)
      (service.isSound_handlerName snake sound.inner (letters method member)).2
  exact (natsImports_tallied below).append ((natsPrefix_tallied sound).append
    ((natsRegister_tallied sound).append (encoders.append (natsError_tallied sound.inner))))

end Nats

/-! ### The HTTP entry point -/

section EntryPoint

variable
  {service : Service}
  {path : ModulePath}

/-- The imports declare nothing. -/
theorem entryPointImports_tallied (below : service.IsBelow path) (sound : service.IsSound) :
    Listing ';' RowEntry.tally? []
      ["use clap::Parser;",
       .line ["use ", .code service.packagePath, "::config::config_gen::\x7bprint_banner, ServiceConfig\x7d;"],
       .line ["use ", .code service.packagePath, "::implementation_gen::", .name service.name, "Service;"],
       .line ["use ", .code service.packagePath, "::transport::http::http_gen::register_",
         .inner service.snake, "_routes;"],
       .line ["use ", .code service.packagePath, "::transport::transport_gen::make_",
         .inner service.snake, "_endpoints;"],
       .when service.options.logging
         [.line ["use ", .code service.packagePath, "::middleware::logging_gen::", .name service.name,
           "LoggingMiddleware;"]],
       .when service.options.tracing
         [.line ["use ", .code service.packagePath, "::middleware::tracing_gen::", .name service.name,
            "TracingMiddleware;"],
          .line ["use ", .code service.packagePath, "::otel::tracing_gen::init_tracer;"]]] := by
  obtain ⟨name, inner, -, -, -, -⟩ := sound
  generalize service.snake = snake at inner
  generalize service.name = serviceName at name
  have logging : Listing ';' RowEntry.tally? []
      [.line ["use ", .code service.packagePath, "::middleware::logging_gen::", .name serviceName,
        "LoggingMiddleware;"]] :=
    Service.import_listing below (.fixed (.name name (.fixed .nil))) (by rfl) (by cbv) (fun _ => by cbv)
      fun _ => by cbv
  have tracing : Listing ';' RowEntry.tally? []
      [.line ["use ", .code service.packagePath, "::middleware::tracing_gen::", .name serviceName,
        "TracingMiddleware;"]] :=
    Service.import_listing below (.fixed (.name name (.fixed .nil))) (by rfl) (by cbv) (fun _ => by cbv)
      fun _ => by cbv
  have tracer : Listing ';' RowEntry.tally? []
      [.line ["use ", .code service.packagePath, "::otel::tracing_gen::init_tracer;"]] :=
    Service.import_listing below (.fixed .nil) (by rfl) (by cbv) (fun _ => by cbv) fun _ => by cbv
  show Listing _ _ ([] ++ ([] ++ ([] ++ ([] ++ ([] ++ ([] ++ []))))))
    ([_] ++ ([_] ++ ([_] ++ ([_] ++ ([_] ++ ([_] ++ [_]))))))
  refine Listing.append ?clap (Listing.append ?settings (Listing.append ?implementation
    (Listing.append ?routes (Listing.append ?endpoints (Listing.append ?logged ?traced)))))
  case clap => exact .known (.line (.fixed .nil) rfl .nil) ⟨by cbv, by cbv, by cbv⟩
  case settings =>
    exact Service.import_listing below (.fixed .nil) (by rfl) (by cbv) (fun _ => by cbv) fun _ => by cbv
  case implementation =>
    exact Service.import_listing below (.fixed (.name name (.fixed .nil))) (by rfl) (by cbv)
      (fun _ => by cbv) fun _ => by cbv
  case routes | endpoints =>
    exact Service.import_listing below (.fixed (.inner inner (.fixed .nil))) (by rfl) (by cbv)
      (fun _ => by cbv) fun _ => by cbv
  case logged =>
    cases service.options.logging with
    | false => exact Listing.when false logging
    | true => exact Listing.when true logging
  case traced =>
    have both := tracing.append tracer
    cases service.options.tracing with
    | false => exact Listing.when false both
    | true => exact Listing.when true both

/-- The arguments of the process. -/
theorem arguments_tallied {name : String} (isName : Glyph.IsSound (.name name)) (tracing : Bool) :
    Listing ';' RowEntry.tally? [.struct (name ++ "HttpRunArgs")]
      ["",
       .line ["/// Command-line arguments for serving [`", .name name, "`] over HTTP."],
       "#[derive(Debug, Clone, Parser)]",
       .block ["pub struct ", .name name, "HttpRunArgs"]
         ["/// HTTP listen address; falls back to `HTTP_ADDR` and then the config default",
          "#[arg(long = \"http.addr\")]",
          "pub http_addr: Option<String>,",
          "",
          "/// Path prefix every route is mounted under",
          "#[arg(long, default_value = \"/api/v1\")]",
          "pub prefix: String,",
          .when tracing
            ["",
             "/// Export spans over OTLP",
             "#[arg(long)]",
             "pub tracing: bool,"]]] := by
  cases tracing
  all_goals
    apply Listing.known
    · repeat' first | with_reducible constructor | with_reducible assumption | rfl
    · exact ⟨by cbv, by cbv, by cbv⟩

/-- The function that serves. -/
theorem serve_tallied (sound : service.IsSound) :
    Listing ';' RowEntry.tally? [.function ("run_" ++ service.snake ++ "_http")]
      ["",
       .line ["/// Serve [`", .name service.name, "`] over HTTP until interrupted."],
       .hang ["pub async fn run_", .inner service.snake, "_http("]
         [.line ["args: ", .name service.name, "HttpRunArgs,"]],
       .block ") -> Result<(), Box<dyn std::error::Error + Send + Sync>>"
         ["let config = ServiceConfig::from_env();",
          "print_banner();",
          .when service.options.tracing
            [.either "let provider = if args.tracing"
               [.line ["Some(init_tracer(\"", .prose service.snake, "\")?)"]]
               ["None"]
               "\x7d;"],
          "",
          .line ["let service = ", .name service.name, "Service::new();"],
          .when service.options.logging
            [.line ["let service = ", .name service.name, "LoggingMiddleware::new(service);"]],
          .when service.options.tracing
            [.line ["let service = ", .name service.name, "TracingMiddleware::new(service);"]],
          .line ["let endpoints = make_", .inner service.snake, "_endpoints(service);"],
          "",
          .line ["let app = axum::Router::new().nest(&args.prefix, register_", .inner service.snake,
            "_routes(endpoints));"],
          "let addr = args.http_addr.unwrap_or(config.http_addr);",
          "let listener = tokio::net::TcpListener::bind(&addr).await?;",
          "tracing::info!(transport = \"HTTP\", addr = %addr, production = config.production, \"Listening\");",
          "",
          .hang "axum::serve(listener, app)"
            [".with_graceful_shutdown(shutdown_signal())",
             ".await?;"],
          .when service.options.tracing
            ["",
             .block "if let Some(provider) = provider"
               ["provider.shutdown()?;"]],
          "Ok(())"]] := by
  obtain ⟨name, inner, prose, -, -, -⟩ := sound
  generalize service.snake = snake at inner prose
  generalize service.name = serviceName at name
  have opens : Line.Reads
      (Opens (· = [.closing .parenthesis, .mark '-' .alone, .mark '>' .alone, .word "Result",
        .mark '<' .alone, .opening .parenthesis, .closing .parenthesis, .mark ',' .alone, .word "Box",
        .mark '<' .alone, .word "dyn", .word "std", .mark ':' .joint, .mark ':' .alone, .word "error",
        .mark ':' .joint, .mark ':' .alone, .word "Error", .mark '+' .alone, .word "Send",
        .mark '+' .alone, .word "Sync", .mark '>' .alone, .mark '>' .alone]))
      [") -> Result<(), Box<dyn std::error::Error + Send + Sync>>", " \x7b"] :=
    Line.Shows.opens (.fixed (.fixed .nil)) (by rfl)
  show Listing _ _ _ ([_, _, _] ++ [_])
  apply Listing.function
  case blocks =>
    refine Reads.nest opens ?_
    show Reads _ (List.flatMap _ ([_] ++ [_, _, _, _, _, _, _, _, _, _, _, _, _, _, _, _]))
    apply Sketched.statements
    case sketched => exact .line (.fixed .nil) (by rfl) .nil
    case begins => rfl
    case balanced => rfl
    case others =>
      apply Outlined.balanced
      repeat' first | with_reducible constructor | with_reducible assumption | rfl | intro _
  case leads => repeat' first | with_reducible constructor | with_reducible assumption | rfl
  case flat => cbv
  case declares => cbv

/-- The function that waits for the signal to shut down. -/
def shutdownCode : List Code :=
  ["",
   .block "async fn shutdown_signal()"
     [.block "if let Err(error) = tokio::signal::ctrl_c().await"
        ["tracing::error!(%error, \"Failed to listen for shutdown signal\");"],
      "tracing::info!(\"Shutdown signal received\");"]]

theorem shutdown_tallied : Listing ';' RowEntry.tally? [.function "shutdown_signal"] shutdownCode := by
  apply Listing.known
  · unfold shutdownCode
    repeat' first | with_reducible constructor | rfl
  · exact ⟨by cbv, by cbv, by cbv⟩

/-- The function that waits is one entry. -/
theorem shutdown_single : Listing ';' (fun _ => some ()) [()] shutdownCode := by
  apply Listing.known
  · unfold shutdownCode
    repeat' first | with_reducible constructor | rfl
  · exact ⟨by cbv, by cbv, by cbv⟩

/-- The HTTP entry point ends with the function that waits, in front of which the arguments and the
function that serves are counted. -/
theorem exists_httpEntryPoint_front (below : service.IsBelow path) (sound : service.IsSound) :
    ∃ front, Template.httpEntryPoint service = front ++ shutdownCode
      ∧ Listing ';' RowEntry.tally?
        [.struct (service.name ++ "HttpRunArgs"), .function ("run_" ++ service.snake ++ "_http")]
        front := by
  have imports := entryPointImports_tallied below sound
  have arguments := arguments_tallied sound.name service.options.tracing
  have serves := serve_tallied sound
  exact ⟨_, rfl, imports.append (arguments.append serves)⟩

/-- The lines of the HTTP entry point are counted. -/
theorem httpEntryPoint_tallied (below : service.IsBelow path) (sound : service.IsSound) :
    Listing ';' RowEntry.tally? service.entryPointTallies (Template.httpEntryPoint service) := by
  obtain ⟨front, same, listing⟩ := exists_httpEntryPoint_front below sound
  rw [same]
  exact listing.append shutdown_tallied

end EntryPoint

end Scaffold
