import Scaffold.Proofs.Artifact.Rendering
import Scaffold.Proofs.Source.Tally

/-!
Contract: the declarations that set up tracing.

Owns:
- the declarations of a file, as they are compared;
- the groups of declarations that set up tracing: the exporter's, and those of each wire adapter.

Does not own: which adapters the jobs of a file ask for.
-/

namespace Scaffold

open Source Artifact

/-- The declarations of a file, each as the tokens that it is compared by. -/
def Source.SourceFile.declarations (file : SourceFile) : List (List Token) :=
  file.items.map fun item => item.spell true

/-- Elements that are there if the condition holds. -/
def listIf {α : Type} (condition : Bool) (elements : List α) : List α :=
  if condition then elements else []

/-! ### Groups of text -/

/-- The characters of lines below each other. -/
def Artifact.Code.rows (parts : List Code) : List Char :=
  (parts.flatMap Code.lines).flatMap fun line => line.characters ++ ['\n']

theorem Artifact.Code.rows_append (first second : List Code) :
    rows (first ++ second) = rows first ++ rows second := by
  rw [rows, List.flatMap_append, List.flatMap_append]
  rfl

theorem Artifact.Code.rows_when (condition : Bool) (parts : List Code) :
    rows [.when condition parts] = listIf condition (rows parts) := by
  cases condition with
  | false => rfl
  | true => simp [rows, listIf, Code.when, Code.all]

/-- The text that sets up tracing has a group of characters for the exporter and for each adapter. -/
theorem Service.characters_tracingSetup (service : Service) :
    Code.characters (ArtifactKind.tracingSetup.code service)
      = Code.rows Template.tracerSetup
        ++ (listIf service.options.http (Code.rows Template.httpPropagation)
          ++ listIf service.options.nats (Code.rows Template.natsPropagation)) := by
  obtain ⟨line, lines, same, -⟩ := ArtifactKind.tracingSetup.exists_first_line service
  have groups : ArtifactKind.tracingSetup.code service
      = Template.tracerSetup ++ ([.when service.options.http Template.httpPropagation]
        ++ [.when service.options.nats Template.natsPropagation]) := rfl
  rw [Code.characters_of_lines same, ← same, ← Code.rows_when, ← Code.rows_when, ← Code.rows_append,
    ← Code.rows_append, ← groups]
  rfl

/-! ### Groups of declarations -/

/-- What a declaration declares, as the tokens that it is compared by. -/
def Source.spelledDeclared? (declaration : List Token) : Option Declared :=
  declaredAhead (Token.surface 0 declaration)

/-- The item declares what its tokens do, and no two of its functions have one name. -/
def Source.Node.IsPlainlySpelled (item : Node .item) : Prop :=
  item.declared? = spelledDeclared? (item.spell true) ∧ item.functions.Nodup

instance (item : Node .item) : Decidable item.IsPlainlySpelled :=
  inferInstanceAs (Decidable (_ ∧ _))

/-- A file without attributes, whose items are plainly spelled. -/
structure Source.SourceFile.IsBare (file : SourceFile) : Prop where
  attributes : file.attributes = []
  items : ∀ item ∈ file.items, item.IsPlainlySpelled

/-- The declarations that characters spell, where no attributes of the file are among them. -/
def bareDeclarations? (characters : List Char) : Option (List (List Token)) :=
  match SourceFile.ofCharacters? characters with
  | some ⟨[], items⟩ =>
      if items.all fun item => decide item.IsPlainlySpelled then
        some (SourceFile.declarations ⟨[], items⟩)
      else none
  | _ => none

theorem isBare_of_bareDeclarations?
    {characters : List Char}
    {declarations : List (List Token)}
    (found : bareDeclarations? characters = some declarations) :
    ∃ file, SourceFile.ofCharacters? characters = some file ∧ file.IsBare
      ∧ file.declarations = declarations := by
  rw [bareDeclarations?] at found
  split at found
  · next items spelled =>
      obtain ⟨plain, same⟩ := Option.ite_none_right_eq_some.mp found
      simp only [List.all_eq_true, decide_eq_true_eq] at plain
      exact ⟨⟨[], items⟩, spelled, ⟨rfl, plain⟩, Option.some.inj same⟩
  · cases found

/-- A token as it is in a declaration: only the marks of paths, arrows and lifetimes run into what
follows. -/
def Source.Token.settled : Token → Token
  | .mark char spacing => .mark char (if [':', '-', '=', '\''].contains char then spacing else .alone)
  | token => token

/-- Is a semicolon ahead? -/
def isSemicolonAhead : List Token → Bool
  | .mark char _ :: _ => char == ';'
  | _ => false

/-- A token put in front of the first of several rows. -/
def putInFront (token : Token) : List (List Token) → List (List Token)
  | [] => [[token]]
  | row :: rows => (token :: row) :: rows

/-- A row cut where a declaration ends: behind a semicolon outside of all delimiters, and behind a block
in braces that has no semicolon behind it. `depth` counts the open delimiters. -/
def cutAtEnds (depth : Nat) : List Token → List (List Token)
  | [] => []
  | token :: rest =>
      match token with
      | .opening _ => putInFront token (cutAtEnds (depth + 1) rest)
      | .closing delimiter =>
          if depth = 1 ∧ delimiter = .brace ∧ isSemicolonAhead rest = false then
            [token] :: cutAtEnds 0 rest
          else putInFront token (cutAtEnds (depth - 1) rest)
      | _ =>
          if depth = 0 ∧ isSemicolonAhead [token] = true then [token] :: cutAtEnds 0 rest
          else putInFront token (cutAtEnds depth rest)

/-- What characters declare, found by the ends of the declarations alone. -/
def cutDeclarations (characters : List Char) : List (List Token) :=
  cutAtEnds 0 (((Scan.tokens? characters).getD []).map Token.settled)

/-- Three groups of characters, of which the last two may be missing, declare what each of them does. -/
def DeclareByGroups (withHttp withNats : Bool) (setup http nats : List Char) : Prop :=
  bareDeclarations? (setup ++ (listIf withHttp http ++ listIf withNats nats))
    = some (cutDeclarations setup
      ++ (listIf withHttp (cutDeclarations http) ++ listIf withNats (cutDeclarations nats)))

/-- No declaration is there twice, and no two declare one name. -/
structure NamedOnce (declarations : List (List Token)) : Prop where
  apart : declarations.Nodup
  named : (declarations.filterMap spelledDeclared?).Nodup

/-- No declaration of three groups of characters is there twice, and no two declare one name. -/
def DeclareOnce (setup http nats : List Char) : Prop :=
  NamedOnce (cutDeclarations setup ++ (cutDeclarations http ++ cutDeclarations nats))

/-- The characters that spell the groups of text, those of each fixed part taken from its literal. -/
structure Artifact.Template.TracingSpelling where
  setup : List Char
  http : List Char
  nats : List Char
  setupSpelled : SpelledLines (tracerSetup.flatMap Code.lines) setup
  httpSpelled : SpelledLines (httpPropagation.flatMap Code.lines) http
  natsSpelled : SpelledLines (natsPropagation.flatMap Code.lines) nats

namespace Artifact.Template.TracingSpelling

variable (spelling : TracingSpelling)

theorem rows_tracerSetup : Code.rows tracerSetup = spelling.setup :=
  spelling.setupSpelled.characters_eq

theorem rows_httpPropagation : Code.rows httpPropagation = spelling.http :=
  spelling.httpSpelled.characters_eq

theorem rows_natsPropagation : Code.rows natsPropagation = spelling.nats :=
  spelling.natsSpelled.characters_eq

end Artifact.Template.TracingSpelling

/-- The groups of text as they are spelled. -/
def Artifact.Template.tracingSpelling : TracingSpelling := by
  apply TracingSpelling.mk
  case setupSpelled | httpSpelled | natsSpelled =>
    repeat first
      | exact .nil
      | apply SpelledLines.cons
      | apply Line.Spells.fixed
      | apply Line.Spells.piece

-- The parser runs on each of the four texts. All four in one proof are more than its limits allow.
theorem Artifact.Template.declareByGroups_withoutNats (withHttp : Bool) :
    DeclareByGroups withHttp false tracingSpelling.setup tracingSpelling.http tracingSpelling.nats := by
  unfold DeclareByGroups
  cases withHttp <;> decide +kernel

theorem Artifact.Template.declareByGroups_withNats (withHttp : Bool) :
    DeclareByGroups withHttp true tracingSpelling.setup tracingSpelling.http tracingSpelling.nats := by
  unfold DeclareByGroups
  cases withHttp <;> decide +kernel

theorem Artifact.Template.declareByGroups (withHttp withNats : Bool) :
    DeclareByGroups withHttp withNats (Code.rows tracerSetup) (Code.rows httpPropagation)
      (Code.rows natsPropagation) := by
  rw [tracingSpelling.rows_tracerSetup, tracingSpelling.rows_httpPropagation,
    tracingSpelling.rows_natsPropagation]
  cases withNats with
  | false => exact declareByGroups_withoutNats withHttp
  | true => exact declareByGroups_withNats withHttp

theorem Artifact.Template.declareOnce :
    DeclareOnce (Code.rows tracerSetup) (Code.rows httpPropagation) (Code.rows natsPropagation) := by
  rw [tracingSpelling.rows_tracerSetup, tracingSpelling.rows_httpPropagation,
    tracingSpelling.rows_natsPropagation]
  constructor <;> decide +kernel

/-- What sets up tracing for any service: one group of declarations, and one more for each of the wire
adapters that the service has. No declaration of them all is there twice, and no two declare one name. -/
def IsTracingSetup (base ofHttp ofNats : List (List Token)) : Prop :=
  NamedOnce (base ++ (ofHttp ++ ofNats))
    ∧ ∀ service : Service, ∃ file, service.fragment .tracingSetup = .ok file ∧ file.IsBare
      ∧ file.declarations
        = base ++ (listIf service.options.http ofHttp ++ listIf service.options.nats ofNats)

/-- The text that sets up tracing is source whatever wire adapters there are. -/
theorem exists_isTracingSetup : ∃ base ofHttp ofNats, IsTracingSetup base ofHttp ofNats := by
  refine ⟨cutDeclarations (Code.rows Template.tracerSetup),
    cutDeclarations (Code.rows Template.httpPropagation),
    cutDeclarations (Code.rows Template.natsPropagation), Template.declareOnce, fun service => ?_⟩
  have declared := Template.declareByGroups service.options.http service.options.nats
  rw [DeclareByGroups, ← Service.characters_tracingSetup service] at declared
  obtain ⟨file, spelled, bare, declarations⟩ := isBare_of_bareDeclarations? declared
  exact ⟨file, Service.fragment_eq_ok_iff.mpr spelled, bare, declarations⟩

end Scaffold
