import Scaffold.Artifact.Code

/-!
Contract: the text of the settings of a running service.
-/

namespace Scaffold.Artifact.Template

open Code

/-- The literal of the banner that a service prints when it starts. -/
def banner : String :=
  joinedBy "\n"
    ["r\"",
     " ___  ___ _ ____   _(_) ___ ___",
     "/ __|/ _ \\ '__\\ \\ / / |/ __/ _ \\",
     "\\__ \\  __/ |   \\ V /| | (_|  __/",
     "|___/\\___|_|    \\_/ |_|\\___\\___|",
     "\""]

/-- The literal of the description of a package, whose name stands in it as it is. -/
def description (package : String) : String :=
  "\"" ++ package ++ " service\""

/-- The settings, with a description of the package that is named. -/
def config (package : String) : List Code :=
  ["use std::env;",
   "",
   .line ["pub const BANNER: &str = ", .code banner, ";"],
   "",
   .line ["pub const APPLICATION_DESCRIPTION: &str = ", .code (description package), ";"],
   "",
   "/// Runtime settings shared by every transport.",
   "#[derive(Debug, Clone, PartialEq, Eq)]",
   .block "pub struct ServiceConfig"
     ["/// HTTP listen address (`HTTP_ADDR`).",
      "pub http_addr: String,",
      "/// NATS server URL (`NATS_ENDPOINT`).",
      "pub nats_endpoint: String,",
      "/// Production mode (`PRODUCTION`).",
      "pub production: bool,"],
   "",
   .block "impl Default for ServiceConfig"
     [.block "fn default() -> Self"
        [.block "Self"
           ["http_addr: \"0.0.0.0:8080\".to_string(),",
            "nats_endpoint: \"nats://127.0.0.1:4222\".to_string(),",
            "production: false,"]]],
   "",
   .block "impl ServiceConfig"
     ["/// Defaults overridden by whatever the environment sets.",
      .block "pub fn from_env() -> Self"
        ["let defaults = Self::default();",
         .block "Self"
           ["http_addr: env::var(\"HTTP_ADDR\").unwrap_or(defaults.http_addr),",
            "nats_endpoint: env::var(\"NATS_ENDPOINT\").unwrap_or(defaults.nats_endpoint),",
            .hang "production: env::var(\"PRODUCTION\")"
              [".map(|value| matches!(value.to_ascii_lowercase().as_str(), \"1\" | \"true\" | \"yes\"))",
               ".unwrap_or(defaults.production),"]]]],
   "",
   .block "pub fn print_banner()"
     ["println!(\"\x7bBANNER\x7d\\n\x7bAPPLICATION_DESCRIPTION\x7d\");"]]

end Scaffold.Artifact.Template
