import Scaffold.Settings.Layer

/-!
Contract: what the arguments of the program ask for.

Owns:
- the two commands, the options that they share and the spellings of these;
- the reading of an argument list, which ends early where help is asked for and where the list
  is refused;
- the environment variables that stand in for options that are not given.

A list is read from left to right in one pass, so what comes first decides when several things
end the reading. That quietness and verbosity exclude each other is judged at the end.
-/

namespace Scaffold

/-- The environment variables that the program looks at. -/
structure Environment where
  module : Option String := none
  input : Option String := none
  logFilter : Option String := none
  deriving DecidableEq, Repr

/-- Look the variables up by their names. -/
def Environment.ofLookup {m : Type → Type} [Monad m] (lookup : String → m (Option String)) :
    m Environment := do
  return {
    module := ← lookup "SERVICEGEN_MOD"
    input := ← lookup "SERVICEGEN_FILE"
    logFilter := ← lookup "RUST_LOG" }

namespace Command

/-- What the program can be told to do. -/
inductive Verb where
  /-- Write the generated files. -/
  | generate
  /-- Say what would be generated. -/
  | check
  deriving DecidableEq, Repr

/-- The options of a command, as far as they are given. -/
structure Options where
  module : Option String := none
  input : Option Path := none
  output : Option Path := none
  config : Option Path := none
  verbosity : Nat := 0
  quiet : Bool := false
  deriving DecidableEq, Repr

/-- Why the reading of arguments ends early. -/
inductive Ending where
  /-- The arguments ask how the program is used. -/
  | help
  /-- The arguments ask for the version of the program. -/
  | version
  /-- The arguments are refused. -/
  | refused
  deriving DecidableEq, Repr

/-- An option that takes a value. -/
inductive Valued where
  | module
  | input
  | output
  | config
  deriving DecidableEq, Repr

/-- An option that takes none. -/
inductive Switch where
  | verbose
  | quiet
  | help
  deriving DecidableEq, Repr

/-- An option. -/
inductive Flag where
  | valued (option : Valued)
  | switch (option : Switch)
  deriving DecidableEq, Repr

/-- The long name and the letter of each option. -/
def Flag.spellings : List (String × Char × Flag) :=
  [("mod", 'm', .valued .module), ("input", 'i', .valued .input), ("out", 'o', .valued .output),
    ("config", 'c', .valued .config), ("verbose", 'v', .switch .verbose),
    ("quiet", 'q', .switch .quiet), ("help", 'h', .switch .help)]

/-- The option with a long name. -/
def Flag.ofName? (name : List Char) : Option Flag :=
  (Flag.spellings.find? fun spelling => spelling.1.toList == name).map fun spelling =>
    spelling.2.2

/-- The option with a letter. -/
def Flag.ofLetter? (letter : Char) : Option Flag :=
  (Flag.spellings.find? fun spelling => spelling.2.1 == letter).map fun spelling =>
    spelling.2.2

/-- Put a value where none is. -/
def fillOnce {α : Type} (value : α) : Option α → Except Ending (Option α)
  | none => .ok (some value)
  | some _ => .error .refused

/-- The path that a value spells; the empty one is refused. -/
def pathOf (value : String) : Except Ending Path :=
  if value.isEmpty then .error .refused else .ok ⟨value⟩

/-- The options with a value given to one, which must not have one yet. -/
def Options.give (options : Options) (option : Valued) (value : String) :
    Except Ending Options := do
  match option with
  | .module => return { options with module := ← fillOnce value options.module }
  | .input => return { options with input := ← fillOnce (← pathOf value) options.input }
  | .output => return { options with output := ← fillOnce (← pathOf value) options.output }
  | .config => return { options with config := ← fillOnce (← pathOf value) options.config }

/-- The options with a switch turned. Verbosity is counted, quietness is turned once. -/
def Options.turn (options : Options) : Switch → Except Ending Options
  | .verbose => .ok { options with verbosity := options.verbosity + 1 }
  | .quiet => if options.quiet then .error .refused else .ok { options with quiet := true }
  | .help => .error .help

/-- The sorts of arguments. -/
inductive Argument where
  /-- An argument that is no option. -/
  | operand (text : String)
  /-- The argument behind which only operands follow. -/
  | terminator
  /-- A long name, and the value that follows an equals sign. -/
  | long (name : List Char) (value : Option String)
  /-- Letters. -/
  | letters (first : Char) (rest : List Char)
  deriving DecidableEq, Repr

/-- The sort of an argument. -/
def Argument.ofText (text : String) : Argument :=
  match text.toList with
  | ['-', '-'] => .terminator
  | '-' :: '-' :: body =>
      let name := body.takeWhile (· != '=')
      match body.dropWhile (· != '=') with
      | _ :: value => .long name (some (String.ofList value))
      | [] => .long name none
  | '-' :: first :: rest => .letters first rest
  | _ => .operand text

/-- The value that follows the letter of an option at once, with or without an equals sign. -/
def attachedValue? : List Char → Option String
  | [] => none
  | '=' :: value => some (String.ofList value)
  | value => some (String.ofList value)

/-- Read letters: switches, and at the end an option that takes a value. What is left behind is
the option whose value is still to come. -/
def readLetters (options : Options) : List Char → Except Ending (Options × Option Valued)
  | [] => .ok (options, none)
  | letter :: rest =>
      match Flag.ofLetter? letter with
      | none => .error .refused
      | some (.switch option) => do readLetters (← options.turn option) rest
      | some (.valued option) =>
          match attachedValue? rest with
          | some value => do return (← options.give option value, none)
          | none => .ok (options, some option)

/-- Read a long name. What is left behind is the option whose value is still to come. -/
def readName (options : Options) (name : List Char) (value : Option String) :
    Except Ending (Options × Option Valued) :=
  match Flag.ofName? name, value with
  | some (.switch option), none => do return (← options.turn option, none)
  | some (.valued option), some given => do return (← options.give option given, none)
  | some (.valued option), none => .ok (options, some option)
  | _, _ => .error .refused

/-- Read the options of a command. `waiting` is the option whose value is the next argument.
Commands take no operands. -/
def readOptions (waiting : Option Valued) (options : Options) :
    List String → Except Ending Options
  | [] => if waiting.isSome then .error .refused else .ok options
  | argument :: rest =>
      match waiting, Argument.ofText argument with
      | some option, .operand value => do
          readOptions none (← options.give option value) rest
      | some _, _ => .error .refused
      | none, .operand _ => .error .refused
      | none, .terminator => if rest.isEmpty then .ok options else .error .refused
      | none, .long name value => do
          let (next, missing) ← readName options name value
          readOptions missing next rest
      | none, .letters first more => do
          let (next, missing) ← readLetters options (first :: more)
          readOptions missing next rest

/-- The options with the environment in the place of those that are not given. -/
def Options.completed (options : Options) (environment : Environment) :
    Except Ending Options := do
  let input ←
    match options.input, environment.input with
    | none, some value => some <$> pathOf value
    | given, _ => pure given
  return { options with module := options.module <|> environment.module, input }

/-- A command and its options. -/
structure Invocation where
  verb : Verb
  options : Options
  deriving DecidableEq, Repr

/-- The invocation of a command with the arguments that follow its name. -/
def Invocation.ofArguments (environment : Environment) (verb : Verb) (arguments : List String) :
    Except Ending Invocation := do
  let given ← readOptions none {} arguments
  let options ← given.completed environment
  if options.quiet && options.verbosity != 0 then throw .refused
  return ⟨verb, options⟩

/-- The command with a name. -/
def Verb.ofName? : String → Option Verb
  | "generate" => some .generate
  | "check" => some .check
  | _ => none

/-- Help is asked for in general or for one thing that the program can be told to do. -/
def readHelp : List String → Ending
  | [] => .help
  | [name] => if (Verb.ofName? name).isSome || name == "help" then .help else .refused
  | _ => .refused

/-- How the reading ends when the first argument names no command. -/
def readLead (first : String) (rest : List String) : Ending :=
  match Argument.ofText first with
  | .operand "help" => readHelp rest
  | .long name none =>
      if name = "help".toList then .help
      else if name = "version".toList then .version
      else .refused
  | .letters 'h' _ => .help
  | .letters 'V' _ => .version
  | _ => .refused

/-- What the arguments of the program ask for. -/
def Invocation.ofAll (environment : Environment) : List String → Except Ending Invocation
  | [] => .error .refused
  | first :: rest =>
      match Verb.ofName? first with
      | some verb => ofArguments environment verb rest
      | none => .error (readLead first rest)

/-- The layer of settings that the options make. -/
def Options.layer (options : Options) : SettingsLayer where
  module := options.module
  input := options.input
  output := options.output

end Command

end Scaffold
