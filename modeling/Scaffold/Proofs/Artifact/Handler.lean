import Scaffold.Proofs.Artifact.Mirror

/-!
Contract: what the file of the HTTP adapter of a service declares.

Owns:
- the handler of a method and the encoding of its answer;
- that the lines of the file are read as the routes, these functions of each method, and the encoding
  of errors.

Does not own: which routes there are.
-/

namespace Scaffold

open Source Source.Scan Artifact Text

section Method

variable
  {service : Service}
  {method : Method}

/-- The names of the functions of a method, which is not named by a raw identifier. -/
theorem Service.isSound_handlerName
    (snake : isWord service.snake = true)
    (inner : Glyph.IsSound (.inner service.snake))
    (letters : ∀ char ∈ method.name.toList, continuesIdentifier char = true) :
    Glyph.IsSound (.name (service.handlerName method))
      ∧ Glyph.IsSound (.name (service.encoderName method)) := by
  have mark : ∀ char ∈ "_".toList, continuesIdentifier char = true := List.all_eq_true.mp (by decide)
  have behind (ending : String)
      (continues : ∀ char ∈ ending.toList, continuesIdentifier char = true) :
      ∀ char ∈ ("_" ++ method.name ++ ending).toList, continuesIdentifier char = true :=
    continues_append (continues_append mark letters) continues
  constructor
  · have spelled : service.snake ++ ("_" ++ method.name ++ "_handler")
        = service.handlerName method := by
      simp [handlerName, String.append_assoc]
    exact isSound_append snake _ (behind _ (List.all_eq_true.mp (by decide))) (by simp) spelled
  · have spelled : "encode_" ++ (service.snake ++ ("_" ++ method.name ++ "_response"))
        = service.encoderName method := by
      simp [encoderName, String.append_assoc]
    exact isSound_append (by decide) _
      (continues_append inner (behind _ (List.all_eq_true.mp (by decide)))) (by simp; omega) spelled

/-- The handler of a method and the encoding of its answer are read as their declarations. -/
theorem httpHandler_listing
    (sound : service.IsSound)
    (soundMethod : method.IsSound service)
    (handler : Glyph.IsSound (.name (service.handlerName method)))
    (encoder : Glyph.IsSound (.name (service.encoderName method))) :
    Listing ';' (RowEntry.survey? routine?)
      ([.routine ⟨true, service.handlerName method⟩,
        .routine ⟨false, service.encoderName method⟩].map (Outline.survey Routine.name))
      (Template.httpHandler service method) := by
  obtain ⟨name, inner, prose, -, -, -⟩ := sound
  obtain ⟨methodName, -, request, response, -, -, -, -, -, -, -, -⟩ := soundMethod
  unfold Template.httpHandler
  dsimp only
  generalize service.handlerName method = handlerName at handler
  generalize service.encoderName method = encoderName at encoder
  generalize service.requestType method = requestType at request
  generalize service.responseType method = responseType at response
  generalize service.snake = snake at inner prose
  show Listing _ _ ([_] ++ [_]) (([_, _, _] ++ [_]) ++ ([_] ++ [_]))
  apply Listing.append
  case first =>
    have opens : Line.Reads (Opens (· = [])) ["\x7b"] := Line.Shows.opens (.fixed .nil) rfl
    cases service.options.tracing
    all_goals
      apply Listing.routine
      case blocks =>
        refine Reads.nest opens ?_
        rcases Template.defaultContext_cases method with context | context
        all_goals
          rw [context]
          show Reads _ (List.flatMap _ ([_, _] ++ [_]))
          apply Sketched.statements
          case sketched =>
            repeat' first | with_reducible constructor | with_reducible assumption | rfl
          case begins => rfl
          case balanced => rfl
          case others =>
            apply Outlined.balanced
            repeat' first
              | apply Line.Shows.word (by with_reducible assumption)
              | with_reducible constructor | with_reducible assumption | rfl
      case leads =>
        repeat' first
          | apply Line.Shows.word (by with_reducible assumption)
          | with_reducible constructor | with_reducible assumption | rfl
      case flat => cbv
      case isRoutine => cbv
      case declares => cbv
  case second =>
    have opens : Line.Reads
        (Opens (· = [.word "fn", .word encoderName, .opening .parenthesis, .word "response",
          .mark ':' .alone, .word responseType, .closing .parenthesis, .mark '-' .alone,
          .mark '>' .alone, .word "Response"]))
        ["fn ", .code encoderName, "(response: ", .name responseType, ") -> Response", " \x7b"] :=
      Line.Shows.opens (.fixed (.word encoder (.fixed (.name response (.fixed (.fixed .nil))))))
        (by rfl)
    apply Listing.routine
    case blocks =>
      refine Reads.nest opens ?_
      apply Sketched.holds
      case sketched => repeat' first | with_reducible constructor | with_reducible assumption | rfl
      case known => exact ⟨by cbv, by cbv⟩
    case leads => exact .line (.fixed .nil) rfl .nil
    case flat => cbv
    case isRoutine => cbv
    case declares => cbv

end Method

/-! ### The file -/

section Adapter

variable
  {service : Service}
  {path : ModulePath}

/-- The imports declare nothing. -/
theorem imports_listing (below : service.IsBelow path) :
    Listing ';' (RowEntry.survey? routine?) []
      ["use axum::extract::\x7bJson, State\x7d;",
       "use axum::http::StatusCode;",
       "use axum::response::\x7bIntoResponse, Response\x7d;",
       "use axum::routing::post;",
       "use axum::Router;",
       .line ["use ", .code service.packagePath, "::*;"],
       .line ["use ", .code service.packagePath, "::error_gen::\x7bAppError, ErrorResponse\x7d;"],
       .line ["use ", .code service.packagePath, "::transport::transport_gen::*;"],
       .when service.options.tracing
         ["use axum::http::HeaderMap;",
          "use tracing::Instrument;",
          "use tracing_opentelemetry::OpenTelemetrySpanExt;",
          .line ["use ", .code service.packagePath,
            "::otel::tracing_gen::extract_trace_from_http_headers;"]]] := by
  show Listing _ _ ([] ++ ([] ++ ([] ++ ([] ++ []))))
    ([_, _, _, _, _] ++ ([_] ++ ([_] ++ ([_] ++ [_]))))
  refine Listing.append ?foreign (Listing.append (service.package_listing below)
    (Listing.append ?errors (Listing.append ?endpoints ?traced)))
  case foreign =>
    apply Listing.known
    · repeat' first | with_reducible constructor | rfl
    · exact ⟨by cbv, by cbv, by cbv⟩
  case errors | endpoints =>
    exact Service.import_listing below (.fixed .nil) (by rfl) (by cbv) (fun _ => by cbv)
      fun _ => by cbv
  case traced =>
    have traced : Listing ';' (RowEntry.survey? routine?) []
        ["use axum::http::HeaderMap;",
         "use tracing::Instrument;",
         "use tracing_opentelemetry::OpenTelemetrySpanExt;",
         .line ["use ", .code service.packagePath,
           "::otel::tracing_gen::extract_trace_from_http_headers;"]] := by
      show Listing _ _ ([] ++ []) ([_, _, _] ++ [_])
      refine Listing.append ?_ (Service.import_listing below (.fixed .nil) (by rfl) (by cbv)
        (fun _ => by cbv) fun _ => by cbv)
      apply Listing.known
      · repeat' first | with_reducible constructor | rfl
      · exact ⟨by cbv, by cbv, by cbv⟩
    cases service.options.tracing with
    | false => exact Listing.when false traced
    | true => exact Listing.when true traced

/-- The function that registers the routes. -/
theorem routes_listing (sound : service.IsSound) :
    Listing ';' (RowEntry.survey? routine?)
      [Outline.survey Routine.name (.routine ⟨false, "register_" ++ service.snake ++ "_routes"⟩)]
      ["",
       .line ["/// Routes for every [`", .name service.name, "`] endpoint, one `POST /<method>` each."],
       .line ["pub fn register_", .inner service.snake, "_routes<S>(endpoints: ", .name service.name,
         "Endpoints<S>) -> Router"],
       .hang "where"
         [.line ["S: ", .name service.name, " + Send + Sync + 'static,"]],
       .nest "\x7b"
         [.hang "Router::new()"
            [.each service.methods fun method =>
               [.line [".route(\"/", .prose (Text.kebabCase method.name), "\", post(",
                 .code (service.handlerName method), "::<S>))"]],
             ".with_state(endpoints)"]]
         "\x7d"] := by
  have routes : Comply (fun _ => True) [] [] [] (Code.each service.methods _).lines :=
    Comply.each fun method member =>
      Template.httpRoute_comply (fun _ _ => trivial) (sound.methods method member) []
  have router : Sketched _ [("Router::new()" : Code)] := .line (.fixed .nil) (by rfl) .nil
  have listed := Outlined.balanced (.known routes (.line (.fixed .nil) (by rfl) .nil)
    : Outlined _ [] [] _ [.each service.methods _, ".with_state(endpoints)"])
  have opens : Line.Reads (Opens (· = [])) ["\x7b"] := Line.Shows.opens (.fixed .nil) rfl
  obtain ⟨name, inner, -, -, -, -⟩ := sound
  generalize service.snake = snake at inner
  show Listing _ _ _ ([_, _, _, _] ++ [_])
  apply Listing.routine
  case blocks =>
    refine Reads.nest opens ?_
    have deeper := listed.deeper
    rw [← List.flatMap_singleton Code.lines] at deeper
    have body := router.statements (by rfl) (by rfl) deeper
    simpa [Code.hang, Code.all, Code.line] using body
  case leads => repeat' first | with_reducible constructor | with_reducible assumption | rfl
  case flat => cbv
  case isRoutine => cbv
  case declares => cbv

/-- The function that encodes errors. -/
theorem error_listing {snake : String} (inner : Glyph.IsSound (.inner snake)) :
    Listing ';' (RowEntry.survey? routine?)
      [Outline.survey Routine.name (.routine ⟨false, "encode_" ++ snake ++ "_error"⟩)]
      ["",
       .block ["fn encode_", .inner snake, "_error(error: AppError) -> Response"]
         [.hang "let status ="
            ["StatusCode::from_u16(error.http_status()).unwrap_or(StatusCode::INTERNAL_SERVER_ERROR);"],
          "(status, Json(ErrorResponse::from(error))).into_response()"]] := by
  apply Listing.known
  · repeat' first | with_reducible constructor | with_reducible assumption | rfl
  · exact ⟨by cbv, by cbv, by cbv⟩

/-- The lines of the HTTP adapter are read as its declarations. -/
theorem Service.httpAdapter_listing
    (below : service.IsBelow path)
    (sound : service.IsSound)
    (snake : isWord service.snake = true)
    (letters : ∀ method ∈ service.methods, ∀ char ∈ method.name.toList,
      continuesIdentifier char = true) :
    Listing ';' (RowEntry.survey? routine?)
      (service.httpOutlines.map (Outline.survey Routine.name)) (Template.httpAdapter service) := by
  have handlers := Listing.each fun method member =>
    have names := service.isSound_handlerName snake sound.inner (letters method member)
    httpHandler_listing sound (sound.methods method member) names.1 names.2
  have imports := imports_listing below
  have routes := routes_listing sound
  have error := error_listing sound.inner
  rw [← List.map_flatMap] at handlers
  rw [httpOutlines, List.map_cons, List.map_append]
  exact imports.append (routes.append (handlers.append error))

end Adapter

end Scaffold
