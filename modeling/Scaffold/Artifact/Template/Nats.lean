import Scaffold.Artifact.Service
import Scaffold.Text.Words

/-!
Contract: the text of the NATS adapter of a service: a subscription for each method.
-/

namespace Scaffold.Artifact.Template

open Code

/-- The subscription of a method, which serves its requests in a task of its own. -/
def natsSubscription (service : Service) (method : Method) : List Code :=
  let name := service.name
  let snake := service.snake
  let requestType := service.requestType method
  let context := method.defaultContext
  [.hang "let mut subscriber = client"
     [.nest ".queue_subscribe("
        [.line ["format!(\"\x7b\x7d.", .name method.name, "\", ", .code service.prefixName, "),"],
         .line [.code service.prefixName, ".to_string(),"]]
        ")",
      ".await?;"],
   "let handler_endpoints = endpoints.clone();",
   "let handler_client = client.clone();",
   .nest "tokio::spawn(async move \x7b"
     [.block "while let Some(message) = subscriber.next().await"
        [.nest "let Some(reply) = message.reply.clone() else \x7b"
           ["tracing::warn!(subject = %message.subject, \"Dropping request without reply subject\");",
            "continue;"]
           "\x7d;",
         .when service.options.tracing
           [.line ["let span = tracing::info_span!(\"nats.", .prose snake, ".", .name method.name,
              "\");"],
            .block "if let Some(headers) = &message.headers"
              ["span.set_parent(extract_trace_from_nats_headers(headers));"]],
         .nest
           ["let payload = match serde_json::from_slice::<", .name requestType,
             ">(&message.payload) \x7b"]
           [.nest ["Ok(request) => ", .code (service.encoderName method), "("]
              [.hang "handler_endpoints"
                 [.line [".", .name method.name, "(", .code context, "request)"],
                  .when service.options.tracing
                    [".instrument(span)"],
                  ".await,"]]
              "),",
            .line ["Err(error) => encode_", .inner snake,
              "_error(AppError::bad_request(error.to_string())),"]]
           "\x7d;",
         .block "if let Err(error) = handler_client.publish(reply, payload.into()).await"
           [.line ["tracing::error!(%error, \"Failed to publish ", .name name, "::",
              .name method.name, " reply\");"]]]]
     "\x7d);"]

/-- The encoding of what a method answers. -/
def natsResponseEncoder (service : Service) (method : Method) : List Code :=
  let snake := service.snake
  let responseType := service.responseType method
  ["",
   .block
     ["fn ", .code (service.encoderName method), "(response: ", .name responseType, ") -> Vec<u8>"]
     [.block "if let Some(message) = response.error.clone()"
        [.line ["return encode_", .inner snake, "_error(AppError::from_message(message));"]],
      "serde_json::to_vec(&response).unwrap_or_default()"]]

/-- The NATS adapter. -/
def natsAdapter (service : Service) : List Code :=
  let name := service.name
  let snake := service.snake
  let path := service.packagePath
  let methods := service.methods
  ["use futures::StreamExt;",
   .line ["use ", .code path, "::*;"],
   .line ["use ", .code path, "::error_gen::\x7bAppError, ErrorResponse\x7d;"],
   .line ["use ", .code path, "::transport::transport_gen::*;"],
   .when service.options.tracing
     ["use tracing::Instrument;",
      "use tracing_opentelemetry::OpenTelemetrySpanExt;",
      .line ["use ", .code path, "::otel::tracing_gen::extract_trace_from_nats_headers;"]],
   "",
   .line ["/// Subject prefix and queue group for [`", .name name, "`] subscribers."],
   .line ["pub const ", .code service.prefixName, ": &str = \"", .prose snake, "\";"],
   "",
   .line ["/// Subscribe every [`", .name name, "`] endpoint on `<prefix>.<method>`."],
   "///",
   "/// Each subscription is served by its own task; replies go to the request's",
   "/// reply subject.",
   .nest ["pub async fn register_", .inner snake, "_subscribers<S>("]
     [.line ["endpoints: ", .name name, "Endpoints<S>,"],
      "client: async_nats::Client,"]
     ") -> Result<(), async_nats::SubscribeError>",
   .hang "where"
     [.line ["S: ", .name name, " + Send + Sync + 'static,"]],
   .nest "\x7b"
     [.each methods (natsSubscription service),
      "Ok(())"]
     "\x7d",
   .each methods (natsResponseEncoder service),
   "",
   .block ["fn encode_", .inner snake, "_error(error: AppError) -> Vec<u8>"]
     ["serde_json::to_vec(&ErrorResponse::from(error)).unwrap_or_default()"]]

end Scaffold.Artifact.Template
