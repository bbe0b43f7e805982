import Scaffold.Files.Storage
import Scaffold.Package
import Scaffold.Settings.Document

/-!
Contract: the settings of a run, in layers.

Owns:
- layers of settings and what they are made of: a document, a file, the command line;
- the settings that a pile of layers comes to, with defaults for what is not set;
- the ways in which settings are refused.

Each value is that of the last layer which sets it, so a value is judged only once all layers
are on the pile.
-/

namespace Scaffold

/-- Why settings are refused. -/
inductive SettingsError where
  /-- The settings file cannot be read. -/
  | unreadable (path : Path) (fault : Fault)
  /-- A settings document is no list of known keys with texts. -/
  | malformed
  /-- No module path is set. -/
  | moduleUnset
  /-- A value is empty. -/
  | emptyValue (field : String)
  deriving DecidableEq, Repr

/-- The reason in words. -/
def SettingsError.message : SettingsError → String
  | .unreadable path _ => "failed to read config " ++ path.text
  | .malformed => "invalid config"
  | .moduleUnset =>
      "module path is not set; pass --mod, set SERVICEGEN_MOD or add `module` to servicegen.toml"
  | .emptyValue field => "`" ++ field ++ "` cannot be empty"

/-- Some of the settings of a run. -/
structure SettingsLayer where
  module : Option String := none
  input : Option Path := none
  output : Option Path := none
  logLevel : Option String := none
  deriving DecidableEq, Repr, Inhabited

/-- The settings of a run. -/
structure Settings where
  module : String
  input : Path
  output : Path
  logLevel : String
  deriving DecidableEq, Repr

namespace SettingsLayer

/-- A layer with another one on top of it. -/
def atop (upper lower : SettingsLayer) : SettingsLayer where
  module := upper.module <|> lower.module
  input := upper.input <|> lower.input
  output := upper.output <|> lower.output
  logLevel := upper.logLevel <|> lower.logLevel

/-- The layer that sets one key; keys that are not known set nothing. -/
def ofSetting? : String × String → Option SettingsLayer
  | ("module", text) => some { module := some text }
  | ("input", text) => some { input := some ⟨text⟩ }
  | ("output", text) => some { output := some ⟨text⟩ }
  | ("log_level", text) => some { logLevel := some text }
  | _ => none

/-- The layer that settings make, each of whose keys is known and set once. -/
def ofSettings? (settings : List (String × String)) : Option SettingsLayer :=
  if (settings.map Prod.fst).Nodup then
    (settings.mapM ofSetting?).map fun layers =>
      layers.foldl (fun lower upper => upper.atop lower) {}
  else none

/-- The layer that a document holds. -/
def ofDocument (text : String) : Except SettingsError SettingsLayer :=
  match (Settings.Document.settings? text).bind ofSettings? with
  | some layer => .ok layer
  | none => .error .malformed

/-- The settings file that is looked for when none is named. -/
def defaultFile : Path := ⟨"servicegen.toml"⟩

/-- The input file when none is set. -/
def defaultInput : Path := ⟨"./services/calc/service.rs"⟩

/-- The log level when none is set. -/
def defaultLogLevel : String := "info"

/-- The module path that stands for none. -/
def unsetModule : String := "."

/-- Does the module path name a module? -/
def namesModule (module : String) : Bool :=
  let trimmed := Text.trim module
  !trimmed.isEmpty && trimmed != unsetModule

/-- Judge the values that are set. -/
def validate (layer : SettingsLayer) : Except SettingsError Unit :=
  if layer.module.any fun module => !namesModule module then .error .moduleUnset
  else if layer.input.any Path.isEmpty then .error (.emptyValue "input")
  else if layer.output.any Path.isEmpty then .error (.emptyValue "output")
  else if layer.logLevel.any fun level => (Text.trim level).isEmpty then
    .error (.emptyValue "log_level")
  else .ok ()

/-- The settings that a layer comes to. Generated files go next to the input file where no
output root is set. -/
def settings (layer : SettingsLayer) : Except SettingsError Settings := do
  layer.validate
  match layer.module with
  | none => throw .moduleUnset
  | some module =>
      let input := layer.input.getD defaultInput
      return {
        module
        input
        output := layer.output.getD (Package.directoryFor input)
        logLevel := layer.logLevel.getD defaultLogLevel }

variable {m : Type → Type} [Monad m] [Storage m]

/-- The layer that the file at a path holds. -/
def ofFile (path : Path) : m (Except SettingsError SettingsLayer) := do
  match ← Storage.readText path with
  | .error fault => return .error (.unreadable path fault)
  | .ok text => return ofDocument text

/-- The layer of the named settings file, or of the default one if it is there. -/
def discover (named : Option Path) : m (Except SettingsError SettingsLayer) := do
  match named with
  | some path => ofFile path
  | none =>
      if ← Storage.isFile defaultFile then ofFile defaultFile else return .ok {}

end SettingsLayer

/-- The package of the input file of a run. -/
def Settings.package (settings : Settings) : Package :=
  Package.resolve settings.module settings.input

end Scaffold
