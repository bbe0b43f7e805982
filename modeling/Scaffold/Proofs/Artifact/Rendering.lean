import Scaffold.Artifact.Rendering

/-!
Contract: generated text character by character.

Owns:
- the characters of indented lines, and of their literals;
- the reading of generated text from its characters.

Does not own: whether the text of a service is source.
-/

namespace Scaffold

open Source Artifact

/-- The characters of a line. -/
def Artifact.Line.characters (line : Line) : List Char :=
  line.flatMap fun piece => piece.text.toList

theorem Artifact.Line.toList_text (line : Line) : line.text.toList = line.characters := by
  simp [text, characters, String.toList_join, List.flatMap, Function.comp_def]

/-- The characters of the text of parts below each other. -/
def Artifact.Code.characters (parts : List Code) : List Char :=
  ['\n'].intercalate ((all parts).lines.map Line.characters) ++ ['\n']

theorem Artifact.Code.toList_text (parts : List Code) :
    (text parts).toList = characters parts := by
  simp [text, joinedBy, characters, String.toList_intercalate, Function.comp_def,
    Line.toList_text]

/-- The file that characters spell. -/
def Source.SourceFile.ofCharacters? (characters : List Char) : Option SourceFile :=
  (Scan.tokens? (withoutInterpreter (Scan.withoutByteOrderMark characters))).bind
    (readAll fileContent)

/-- What the text of a kind for a service spells. -/
def Service.fragment (service : Service) (kind : ArtifactKind) : Except Failure SourceFile :=
  kind.reparse (kind.render service)

theorem Service.fragment_eq_ok_iff
    {service : Service}
    {kind : ArtifactKind}
    {file : SourceFile} :
    service.fragment kind = .ok file
      ↔ SourceFile.ofCharacters? (Code.characters (kind.code service)) = some file := by
  have sameText : SourceFile.ofText? (kind.render service)
      = SourceFile.ofCharacters? (Code.characters (kind.code service)) := by
    rw [SourceFile.ofText?, ArtifactKind.render, Code.toList_text]
    rfl
  rw [fragment, ArtifactKind.reparse, sameText]
  cases SourceFile.ofCharacters? (Code.characters (kind.code service)) <;> simp

/-- The text of a kind for a service is source exactly if its characters spell a file. -/
theorem Service.exists_fragment_iff {service : Service} {kind : ArtifactKind} :
    (∃ file, service.fragment kind = .ok file)
      ↔ (SourceFile.ofCharacters? (Code.characters (kind.code service))).isSome = true := by
  simp only [fragment_eq_ok_iff, Option.isSome_iff_exists]

/-! ### Literals -/

/-- Is the line empty, or one that begins with an import? -/
def Artifact.Line.IsFirst (line : Line) : Prop :=
  line.characters = [] ∨ ∃ behind, line.characters = 'u' :: behind

theorem Artifact.Line.isFirst_fixed (word : List Char) (line : Line) :
    IsFirst (.fixed (String.ofList ('u' :: word)) :: line) := by
  refine .inr ⟨word ++ line.characters, ?_⟩
  simp [characters, Piece.text]

/-- The text of every kind begins with such a line. -/
theorem ArtifactKind.exists_first_line (kind : ArtifactKind) (service : Service) :
    ∃ line lines, (kind.code service).flatMap Code.lines = line :: lines ∧ line.IsFirst := by
  cases kind with
  | implementation =>
      refine ⟨_, _, rfl, ?_⟩
      cases service.methods.isEmpty with
      | true => exact .inl rfl
      | false => exact Line.isFirst_fixed _ _
  | errorEnvelope | transport | httpAdapter | natsAdapter | loggingMiddleware | tracingMiddleware
  | tracingSetup | config | httpEntryPoint => exact ⟨_, _, rfl, Line.isFirst_fixed _ _⟩

theorem Artifact.Code.characters_of_lines
    {parts : List Code}
    {first : Line}
    {lines : List Line}
    (same : parts.flatMap Code.lines = first :: lines) :
    Code.characters parts
      = (first :: lines).flatMap fun line => line.characters ++ ['\n'] := by
  rw [Code.characters, Code.all, same]
  clear same
  induction lines generalizing first with
  | nil => simp [List.intercalate]
  | cons second lines inductionHypothesis =>
      rw [List.flatMap_cons, ← inductionHypothesis]
      simp [List.intercalate]

/-- The line is spelled by the characters, where those of a fixed part are taken from its literal. -/
inductive Artifact.Line.Spells : Line → List Char → Prop where
  | nil : Spells [] []
  | fixed
      {characters behind : List Char}
      {line : Line}
      (rest : Spells line behind) :
      Spells (.fixed (String.ofList characters) :: line) (characters ++ behind)
  | piece
      {piece : Piece}
      {behind : List Char}
      {line : Line}
      (rest : Spells line behind) :
      Spells (piece :: line) (piece.text.toList ++ behind)

theorem Artifact.Line.Spells.characters_eq
    {line : Line}
    {characters : List Char}
    (spells : line.Spells characters) :
    line.characters = characters := by
  induction spells with
  | nil => rfl
  | fixed _ inductionHypothesis | piece _ inductionHypothesis =>
      rw [← inductionHypothesis]
      simp [Line.characters, Piece.text]

/-- The lines below each other are spelled by the characters. -/
inductive Artifact.SpelledLines : List Line → List Char → Prop where
  | nil : SpelledLines [] []
  | cons
      {line : Line}
      {lines : List Line}
      {characters behind : List Char}
      (first : line.Spells characters)
      (rest : SpelledLines lines behind) :
      SpelledLines (line :: lines) (characters ++ '\n' :: behind)

theorem Artifact.SpelledLines.characters_eq
    {lines : List Line}
    {characters : List Char}
    (spelled : SpelledLines lines characters) :
    (lines.flatMap fun line => line.characters ++ ['\n']) = characters := by
  induction spelled with
  | nil => rfl
  | cons first _ inductionHypothesis =>
      rw [List.flatMap_cons, first.characters_eq, inductionHypothesis, List.append_assoc]
      rfl

/-- The characters of a text are those of its lines. -/
theorem ArtifactKind.characters_of_spelledLines
    {kind : ArtifactKind}
    {service : Service}
    {characters : List Char}
    (spelled : SpelledLines ((kind.code service).flatMap Code.lines) characters) :
    Code.characters (kind.code service) = characters := by
  obtain ⟨line, lines, same, -⟩ := kind.exists_first_line service
  rw [Code.characters_of_lines same, ← same, spelled.characters_eq]

/-- The text of a kind is source exactly if the characters that spell it are. -/
theorem ArtifactKind.isSome_of_spelledLines
    {kind : ArtifactKind}
    {service : Service}
    {characters : List Char}
    {isSource : Bool}
    (spelled : SpelledLines ((kind.code service).flatMap Code.lines) characters)
    (reads : (SourceFile.ofCharacters? characters).isSome = isSource) :
    (SourceFile.ofCharacters? (Code.characters (kind.code service))).isSome = isSource := by
  rwa [characters_of_spelledLines spelled]

end Scaffold
