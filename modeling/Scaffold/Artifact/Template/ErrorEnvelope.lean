import Scaffold.Artifact.Code

/-!
Contract: the text of the error envelope, which is the same for every service.
-/

namespace Scaffold.Artifact.Template

open Code

/-- The error envelope. -/
def errorEnvelope : List Code :=
  ["use serde::\x7bDeserialize, Serialize\x7d;",
   "use std::fmt;",
   "",
   "/// Code used when an error carries no code of its own.",
   "pub const DEFAULT_ERROR_CODE: u16 = 500;",
   "",
   "/// Error envelope returned by every wire adapter.",
   "#[derive(Debug, Clone, PartialEq, Eq, Serialize, Deserialize)]",
   .block "pub struct AppError"
     ["pub message: String,",
      "pub code: u16,",
      "#[serde(default)]",
      "pub retryable: bool,"],
   "",
   .block "impl AppError"
     [.block "pub fn new(message: impl Into<String>, code: u16) -> Self"
        [.block "Self"
           ["message: message.into(),",
            "code,",
            "retryable: false,"]],
      "",
      .block "pub fn from_message(message: impl Into<String>) -> Self"
        ["Self::new(message, DEFAULT_ERROR_CODE)"],
      "",
      .block "pub fn bad_request(message: impl Into<String>) -> Self"
        ["Self::new(message, 400)"],
      "",
      "/// Mark the error as safe to retry.",
      .block "pub fn retryable(mut self) -> Self"
        ["self.retryable = true;",
         "self"],
      "",
      .block "pub fn is_retryable(&self) -> bool"
        ["self.retryable"],
      "",
      "/// HTTP status for this error; codes outside the error range map to 500.",
      .block "pub fn http_status(&self) -> u16"
        [.either "if (400..600).contains(&self.code)"
           ["self.code"]
           ["DEFAULT_ERROR_CODE"]
           "\x7d"]],
   "",
   .block "impl fmt::Display for AppError"
     [.block "fn fmt(&self, f: &mut fmt::Formatter<'_>) -> fmt::Result"
        ["write!(f, \"[\x7b\x7d] \x7b\x7d\", self.code, self.message)"]],
   "",
   "impl std::error::Error for AppError \x7b\x7d",
   "",
   "/// Body sent when a call fails before or outside a method response.",
   "#[derive(Debug, Clone, Serialize, Deserialize)]",
   .block "pub struct ErrorResponse"
     ["pub success: bool,",
      "pub error: AppError,"],
   "",
   .block "impl From<AppError> for ErrorResponse"
     [.block "fn from(error: AppError) -> Self"
        [.block "Self"
           ["success: false,",
            "error,"]]]]

end Scaffold.Artifact.Template
