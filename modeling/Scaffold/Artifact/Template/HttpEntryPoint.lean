import Scaffold.Artifact.Service

/-!
Contract: the text of the entry point of a process that serves HTTP.
-/

namespace Scaffold.Artifact.Template

open Code

/-- The HTTP entry point. -/
def httpEntryPoint (service : Service) : List Code :=
  let name := service.name
  let snake := service.snake
  let path := service.packagePath
  ["use clap::Parser;",
   .line ["use ", .code path, "::config::config_gen::\x7bprint_banner, ServiceConfig\x7d;"],
   .line ["use ", .code path, "::implementation_gen::", .name name, "Service;"],
   .line ["use ", .code path, "::transport::http::http_gen::register_", .inner snake, "_routes;"],
   .line ["use ", .code path, "::transport::transport_gen::make_", .inner snake, "_endpoints;"],
   .when service.options.logging
     [.line ["use ", .code path, "::middleware::logging_gen::", .name name, "LoggingMiddleware;"]],
   .when service.options.tracing
     [.line ["use ", .code path, "::middleware::tracing_gen::", .name name, "TracingMiddleware;"],
      .line ["use ", .code path, "::otel::tracing_gen::init_tracer;"]],
   "",
   .line ["/// Command-line arguments for serving [`", .name name, "`] over HTTP."],
   "#[derive(Debug, Clone, Parser)]",
   .block ["pub struct ", .name name, "HttpRunArgs"]
     ["/// HTTP listen address; falls back to `HTTP_ADDR` and then the config default",
      "#[arg(long = \"http.addr\")]",
      "pub http_addr: Option<String>,",
      "",
      "/// Path prefix every route is mounted under",
      "#[arg(long, default_value = \"/api/v1\")]",
      "pub prefix: String,",
      .when service.options.tracing
        ["",
         "/// Export spans over OTLP",
         "#[arg(long)]",
         "pub tracing: bool,"]],
   "",
   .line ["/// Serve [`", .name name, "`] over HTTP until interrupted."],
   .hang ["pub async fn run_", .inner snake, "_http("]
     [.line ["args: ", .name name, "HttpRunArgs,"]],
   .block ") -> Result<(), Box<dyn std::error::Error + Send + Sync>>"
     ["let config = ServiceConfig::from_env();",
      "print_banner();",
      .when service.options.tracing
        [.either "let provider = if args.tracing"
           [.line ["Some(init_tracer(\"", .prose snake, "\")?)"]]
           ["None"]
           "\x7d;"],
      "",
      .line ["let service = ", .name name, "Service::new();"],
      .when service.options.logging
        [.line ["let service = ", .name name, "LoggingMiddleware::new(service);"]],
      .when service.options.tracing
        [.line ["let service = ", .name name, "TracingMiddleware::new(service);"]],
      .line ["let endpoints = make_", .inner snake, "_endpoints(service);"],
      "",
      .line ["let app = axum::Router::new().nest(&args.prefix, register_", .inner snake,
        "_routes(endpoints));"],
      "let addr = args.http_addr.unwrap_or(config.http_addr);",
      "let listener = tokio::net::TcpListener::bind(&addr).await?;",
      "tracing::info!(transport = \"HTTP\", addr = %addr, production = config.production, \"Listening\");",
      "",
      .hang "axum::serve(listener, app)"
        [".with_graceful_shutdown(shutdown_signal())",
         ".await?;"],
      .when service.options.tracing
        ["",
         .block "if let Some(provider) = provider"
           ["provider.shutdown()?;"]],
      "Ok(())"],
   "",
   .block "async fn shutdown_signal()"
     [.block "if let Err(error) = tokio::signal::ctrl_c().await"
        ["tracing::error!(%error, \"Failed to listen for shutdown signal\");"],
      "tracing::info!(\"Shutdown signal received\");"]]

end Scaffold.Artifact.Template
