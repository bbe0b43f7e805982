import Scaffold.Command.Arguments
import Scaffold.Generation.Run
import Scaffold.Settings.LogFilter

/-!
Contract: the program from its arguments to its exit status.

Owns:
- the settings of an invocation;
- the two commands and the lines that they print;
- the errors that end the program, each with its cause.

What is printed before an error stays printed.
-/

namespace Scaffold

namespace Command

/-- Why a command fails. -/
inductive Error where
  /-- The settings file is refused. -/
  | loading (reason : SettingsError)
  /-- The settings are refused. -/
  | settings (reason : SettingsError)
  /-- The log level is refused. -/
  | logLevel (refused : RefusedLogLevel)
  /-- A generation run fails. -/
  | generation (input : Path) (failure : Failure)
  /-- The source file of a check cannot be loaded. -/
  | source (input : Path) (failure : Failure)
  /-- Interfaces failed. -/
  | interfaces (number : Nat)
  deriving DecidableEq, Repr

/-- The error in words. -/
def Error.message : Error → String
  | .loading _ => "Failed to load configuration"
  | .settings _ => "Invalid configuration"
  | .logLevel refused => refused.message
  | .generation input _ => "Failed to generate from " ++ input.text
  | .source input _ => "Failed to load " ++ input.text
  | .interfaces number => s!"{number} interface(s) failed to generate"

/-- What is behind the error, in words. -/
def Error.cause? : Error → Option String
  | .loading reason => some reason.message
  | .settings reason => some reason.message
  | .generation _ failure => some failure.message
  | .source _ failure => some failure.message
  | .logLevel _ => none
  | .interfaces _ => none

/-- How a program ends. -/
inductive Ended where
  | success
  | failure (error : Error)
  | refused
  deriving DecidableEq, Repr

/-- The exit status that tells how a program ended. -/
def Ended.status : Ended → Nat
  | .success => 0
  | .failure _ => 1
  | .refused => 2

/-- What a program prints, and how it ends. -/
structure Outcome where
  output : List String
  complaints : List String
  ended : Ended
  deriving DecidableEq, Repr

/-- The printed text. -/
def Outcome.text (outcome : Outcome) : String :=
  String.join (outcome.output.map fun line => line ++ "\n")

/-- The outcome of a program that fails after some lines. -/
def failing (lines : List String) (error : Error) : Outcome :=
  ⟨lines, [], .failure error⟩

/-! ## Lines -/

/-- The line on a generated file. -/
def emittedLine (file : EmittedFile) : String :=
  match file.status with
  | .written => "✓ wrote " ++ file.path.text
  | .unchanged => "  unchanged " ++ file.path.text

/-- The line on a declaration that was passed over. -/
def skippedLine (skipped : SkippedDeclaration) : String :=
  "- skipped " ++ skipped.name ++ ": " ++ skipped.reason.text

/-- The line on a job that is ready. -/
def readyLine (job : CompletedJob) : String :=
  "✓ " ++ job.interface.name ++ s!": {job.interface.methods.length} method(s) -> "
    ++ ", ".intercalate (job.tasks.map fun task => task.kind.key)

/-- The complaint about a job that failed. -/
def failedLine (job : JobFailure) : String :=
  "✗ " ++ job.interface ++ ": " ++ job.failure.message ++ s!" (code {job.failure.code})"

/-- The outcome of a command that went through all jobs: its lines, the skipped declarations, the
complaints, and a closing line unless jobs failed. -/
def closing
    (lines : List String)
    (skipped : List SkippedDeclaration)
    (failed : List JobFailure)
    (last : String) :
    Outcome :=
  let printed := lines ++ skipped.map skippedLine
  let complaints := failed.map failedLine
  if failed.isEmpty then ⟨printed ++ ["", last], complaints, .success⟩
  else ⟨printed, complaints, .failure (.interfaces failed.length)⟩

/-! ## Commands -/

/-- The outcome of a generation run. -/
def generationOutcome (input : Path) : Except Failure GenerationReport → Outcome
  | .error failure => failing [] (.generation input failure)
  | .ok report =>
      closing (report.emitted.map emittedLine) report.skipped report.failed
        s!"Generated {report.emitted.length} file(s)"

/-- The outcome of a check. -/
def checkOutcome (package : Package) (input : Path) : Except Failure Source.SourceFile → Outcome
  | .error failure => failing ["Checking: " ++ input.text] (.source input failure)
  | .ok file =>
      let build := Build.ofItems package file.items
      closing (("Checking: " ++ input.text) :: build.completed.map readyLine) build.skipped
        build.failed s!"{build.completed.length} interface(s) ready"

variable {m : Type → Type} [Monad m] [Storage m]

/-- Carry a command out under settings. -/
def Verb.carryOut (verb : Verb) (settings : Settings) : m Outcome := do
  match verb with
  | .generate =>
      let report ← (generateFrom settings.package settings.output settings.input).run
      return generationOutcome settings.input report
  | .check =>
      let file ← (loadSource settings.input).run
      return checkOutcome settings.package settings.input file

/-- The settings of an invocation: its options on top of the settings file. -/
def Options.settings (options : Options) : m (Except Error Settings) := do
  let found : Except SettingsError SettingsLayer ← SettingsLayer.discover options.config
  return do
    let layer ← found.mapError .loading
    ((options.layer.atop layer).settings).mapError .settings

/-- The log filter of an invocation. -/
def Options.logFilter (options : Options) (environment : Environment) (settings : Settings) :
    Except Error LogFilter :=
  let forced := LogLevel.forced? options.verbosity options.quiet
  (LogFilter.choose forced environment.logFilter settings.logLevel).mapError .logLevel

/-- Carry an invocation out. -/
def Invocation.carryOut (invocation : Invocation) (environment : Environment) : m Outcome := do
  match ← invocation.options.settings with
  | .error error => return failing [] error
  | .ok settings =>
      match invocation.options.logFilter environment settings with
      | .error error => return failing [] error
      | .ok _ => invocation.verb.carryOut settings

/-! ## The program -/

/-- The version of the program. -/
def versionLine : String := "servicegen 0.3.0"

/-- How the program is used. -/
def helpLines : List String :=
  ["Generate service scaffolding from tagged traits",
    "",
    "Usage: servicegen <generate|check> [OPTIONS]",
    "",
    "Options:",
    "  -m, --mod <MODULE>     Module path of the service package [env: SERVICEGEN_MOD]",
    "  -i, --input <INPUT>    Source file containing tagged traits [env: SERVICEGEN_FILE]",
    "  -o, --out <OUT>        Root directory for generated files",
    "  -c, --config <CONFIG>  Path to servicegen.toml",
    "  -v, --verbose...       Increase log verbosity (-v debug, -vv trace)",
    "  -q, --quiet            Only log warnings and errors",
    "  -h, --help             Print help",
    "  -V, --version          Print version"]

/-- The outcome of a program whose arguments name no command to carry out. -/
def Ending.outcome : Ending → Outcome
  | .help => ⟨helpLines, [], .success⟩
  | .version => ⟨[versionLine], [], .success⟩
  | .refused => ⟨[], helpLines, .refused⟩

/-- Run the program. -/
def run (environment : Environment) (arguments : List String) : m Outcome := do
  match Invocation.ofAll environment arguments with
  | .error ending => return ending.outcome
  | .ok invocation => invocation.carryOut environment

end Command

end Scaffold
