import Scaffold.Artifact.Service
import Scaffold.Text.Words

/-!
Contract: the text of the HTTP adapter of a service: its routes, and a handler for each method.
-/

namespace Scaffold.Artifact.Template

open Code

/-- The handler of a method, and the encoding of what it answers. -/
def httpHandler (service : Service) (method : Method) : List Code :=
  let name := service.name
  let snake := service.snake
  let requestType := service.requestType method
  let responseType := service.responseType method
  let context := method.defaultContext
  ["",
   .nest ["async fn ", .code (service.handlerName method), "<S>("]
     [.line ["State(endpoints): State<", .name name, "Endpoints<S>>,"],
      .when service.options.tracing
        ["headers: HeaderMap,"],
      .line ["Json(request): Json<", .name requestType, ">,"]]
     ") -> Response",
   .hang "where"
     [.line ["S: ", .name name, " + Send + Sync + 'static,"]],
   .nest "\x7b"
     [.when service.options.tracing
        [.line ["let span = tracing::info_span!(\"http.", .prose snake, ".", .name method.name,
           "\");"],
         "span.set_parent(extract_trace_from_http_headers(&headers));"],
      .hang "let response = endpoints"
        [.line [".", .name method.name, "(", .code context, "request)"],
         .when service.options.tracing
           [".instrument(span)"],
         ".await;"],
      .line [.code (service.encoderName method), "(response)"]]
     "\x7d",
   "",
   .block
     ["fn ", .code (service.encoderName method), "(response: ", .name responseType, ") -> Response"]
     [.block "if let Some(message) = response.error.clone()"
        [.line ["return encode_", .inner snake, "_error(AppError::from_message(message));"]],
      "Json(response).into_response()"]]

/-- The HTTP adapter. -/
def httpAdapter (service : Service) : List Code :=
  let name := service.name
  let snake := service.snake
  let path := service.packagePath
  let methods := service.methods
  ["use axum::extract::\x7bJson, State\x7d;",
   "use axum::http::StatusCode;",
   "use axum::response::\x7bIntoResponse, Response\x7d;",
   "use axum::routing::post;",
   "use axum::Router;",
   .line ["use ", .code path, "::*;"],
   .line ["use ", .code path, "::error_gen::\x7bAppError, ErrorResponse\x7d;"],
   .line ["use ", .code path, "::transport::transport_gen::*;"],
   .when service.options.tracing
     ["use axum::http::HeaderMap;",
      "use tracing::Instrument;",
      "use tracing_opentelemetry::OpenTelemetrySpanExt;",
      .line ["use ", .code path, "::otel::tracing_gen::extract_trace_from_http_headers;"]],
   "",
   .line ["/// Routes for every [`", .name name, "`] endpoint, one `POST /<method>` each."],
   .line ["pub fn register_", .inner snake, "_routes<S>(endpoints: ", .name name,
     "Endpoints<S>) -> Router"],
   .hang "where"
     [.line ["S: ", .name name, " + Send + Sync + 'static,"]],
   .nest "\x7b"
     [.hang "Router::new()"
        [.each methods fun method =>
           [.line [".route(\"/", .prose (Text.kebabCase method.name), "\", post(",
             .code (service.handlerName method), "::<S>))"]],
         ".with_state(endpoints)"]]
     "\x7d",
   .each methods (httpHandler service),
   "",
   .block ["fn encode_", .inner snake, "_error(error: AppError) -> Response"]
     [.hang "let status ="
        ["StatusCode::from_u16(error.http_status()).unwrap_or(StatusCode::INTERNAL_SERVER_ERROR);"],
      "(status, Json(ErrorResponse::from(error))).into_response()"]]

end Scaffold.Artifact.Template
