import Scaffold.Artifact.Code

/-!
Contract: the text that sets up the export of spans and the propagation of their context.

The text depends on nothing but which wire adapters there are.
-/

namespace Scaffold.Artifact.Template

open Code

/-- The set-up of the span exporter. -/
def tracerSetup : List Code :=
  ["use opentelemetry::global;",
   "use opentelemetry::propagation::\x7bExtractor, Injector, TextMapCompositePropagator\x7d;",
   "use opentelemetry::trace::TracerProvider as _;",
   "use opentelemetry_sdk::propagation::\x7bBaggagePropagator, TraceContextPropagator\x7d;",
   "use opentelemetry_sdk::trace::SdkTracerProvider;",
   "use opentelemetry_sdk::Resource;",
   "use tracing_subscriber::layer::SubscriberExt;",
   "use tracing_subscriber::util::SubscriberInitExt;",
   "",
   "/// Install an OTLP span exporter and a `tracing` subscriber that feeds it.",
   "///",
   "/// Propagation uses W3C trace context plus baggage. Shut the returned",
   "/// provider down before exit to flush pending spans.",
   .hang "pub fn init_tracer("
     ["service_name: &str,"],
   .block ") -> Result<SdkTracerProvider, Box<dyn std::error::Error + Send + Sync>>"
     [.hang "let exporter = opentelemetry_otlp::SpanExporter::builder()"
        [".with_tonic()",
         ".build()?;"],
      .hang "let provider = SdkTracerProvider::builder()"
        [".with_batch_exporter(exporter)",
         .nest ".with_resource("
           [.hang "Resource::builder()"
              [".with_service_name(service_name.to_string())",
               ".build(),"]]
           ")",
         ".build();"],
      "",
      .nest "global::set_text_map_propagator(TextMapCompositePropagator::new(vec!["
        ["Box::new(TraceContextPropagator::new()),",
         "Box::new(BaggagePropagator::new()),"]
        "]));",
      "global::set_tracer_provider(provider.clone());",
      "",
      "let tracer = provider.tracer(service_name.to_string());",
      .hang "tracing_subscriber::registry()"
        [".with(tracing_subscriber::EnvFilter::from_default_env())",
         ".with(tracing_subscriber::fmt::layer())",
         ".with(tracing_opentelemetry::layer().with_tracer(tracer))",
         ".try_init()?;"],
      "",
      "Ok(provider)"]]

/-- The propagation of context in HTTP headers. -/
def httpPropagation : List Code :=
  ["",
   "struct HttpHeaderExtractor<'a>(&'a axum::http::HeaderMap);",
   "",
   .block "impl Extractor for HttpHeaderExtractor<'_>"
     [.block "fn get(&self, key: &str) -> Option<&str>"
        ["self.0.get(key).and_then(|value| value.to_str().ok())"],
      "",
      .block "fn keys(&self) -> Vec<&str>"
        ["self.0.keys().map(|name| name.as_str()).collect()"]],
   "",
   "struct HttpHeaderInjector<'a>(&'a mut axum::http::HeaderMap);",
   "",
   .block "impl Injector for HttpHeaderInjector<'_>"
     [.block "fn set(&mut self, key: &str, value: String)"
        [.hang "if let (Ok(name), Ok(value)) = ("
           ["axum::http::HeaderName::from_bytes(key.as_bytes()),",
            "axum::http::HeaderValue::from_str(&value),"],
         .block ")"
           ["self.0.insert(name, value);"]]],
   "",
   "/// Parent context carried by incoming HTTP headers.",
   .block "pub fn extract_trace_from_http_headers(headers: &axum::http::HeaderMap) -> opentelemetry::Context"
     [.nest "global::get_text_map_propagator(|propagator| \x7b"
        ["propagator.extract(&HttpHeaderExtractor(headers))"]
        "\x7d)"],
   "",
   "/// Write `context` into outgoing HTTP headers.",
   .hang "pub fn inject_trace_to_http_headers("
     ["context: &opentelemetry::Context,",
      "headers: &mut axum::http::HeaderMap,"],
   .block ")"
     [.nest "global::get_text_map_propagator(|propagator| \x7b"
        ["propagator.inject_context(context, &mut HttpHeaderInjector(headers))"]
        "\x7d);"]]

/-- The propagation of context in NATS headers. -/
def natsPropagation : List Code :=
  ["",
   "struct NatsHeaderExtractor<'a>(&'a async_nats::HeaderMap);",
   "",
   .block "impl Extractor for NatsHeaderExtractor<'_>"
     [.block "fn get(&self, key: &str) -> Option<&str>"
        ["self.0.get(key).map(|value| value.as_str())"],
      "",
      .block "fn keys(&self) -> Vec<&str>"
        ["self.0.iter().map(|(name, _)| name.as_ref()).collect()"]],
   "",
   "struct NatsHeaderInjector<'a>(&'a mut async_nats::HeaderMap);",
   "",
   .block "impl Injector for NatsHeaderInjector<'_>"
     [.block "fn set(&mut self, key: &str, value: String)"
        ["self.0.insert(key, value.as_str());"]],
   "",
   "/// Parent context carried by incoming NATS message headers.",
   .block "pub fn extract_trace_from_nats_headers(headers: &async_nats::HeaderMap) -> opentelemetry::Context"
     [.nest "global::get_text_map_propagator(|propagator| \x7b"
        ["propagator.extract(&NatsHeaderExtractor(headers))"]
        "\x7d)"],
   "",
   "/// Write `context` into outgoing NATS message headers.",
   .hang "pub fn inject_trace_to_nats_headers("
     ["context: &opentelemetry::Context,",
      "headers: &mut async_nats::HeaderMap,"],
   .block ")"
     [.nest "global::get_text_map_propagator(|propagator| \x7b"
        ["propagator.inject_context(context, &mut NatsHeaderInjector(headers))"]
        "\x7d);"]]

/-- The set-up of tracing with the propagation that the wire adapters need. -/
def tracingSetup (http nats : Bool) : List Code :=
  tracerSetup ++ [.when http httpPropagation, .when nats natsPropagation]

end Scaffold.Artifact.Template
