import Scaffold.Proofs.Artifact.Statement

/-!
Contract: the imports and the public names of indented text.

Owns:
- the glyphs that a line shows, each of which is what its sort says;
- what is known of the tokens of lines: the delimiters that they open and close, their imports and
  the names that they declare public;
- the outline of code, from which this is known for every way to put lines together.

Does not own: which code there is.
-/

namespace Scaffold.Artifact

open Source Source.Scan Source.Token

/-! ### Lines -/

/-- The line is made of these glyphs. The characters of a fixed part are those of its literal. -/
inductive Line.Shows : Line → List Glyph → Prop where
  | nil : Shows [] []
  | fixed
      {characters : List Char}
      {line : Line}
      {glyphs : List Glyph}
      (behind : Shows line glyphs) :
      Shows (.fixed (String.ofList characters) :: line) (characters.map .known ++ glyphs)
  | name
      {text : String}
      {line : Line}
      {glyphs : List Glyph}
      (sound : Glyph.IsSound (.name text))
      (behind : Shows line glyphs) :
      Shows (.name text :: line) (.name text :: glyphs)
  | inner
      {text : String}
      {line : Line}
      {glyphs : List Glyph}
      (sound : Glyph.IsSound (.inner text))
      (behind : Shows line glyphs) :
      Shows (.inner text :: line) (.inner text :: glyphs)
  | prose
      {text : String}
      {line : Line}
      {glyphs : List Glyph}
      (sound : Glyph.IsSound (.prose text))
      (behind : Shows line glyphs) :
      Shows (.prose text :: line) (.prose text :: glyphs)
  | spelled
      {characters : List Char}
      {line : Line}
      {glyphs : List Glyph}
      (behind : Shows line glyphs) :
      Shows (.code (String.ofList characters) :: line) (characters.map .known ++ glyphs)
  | code
      {text : String}
      {line : Line}
      {glyphs : List Glyph}
      (sound : Glyph.IsSound (.code text))
      (behind : Shows line glyphs) :
      Shows (.code text :: line) (.code text :: glyphs)
  | word
      {text : String}
      {line : Line}
      {glyphs : List Glyph}
      (sound : Glyph.IsSound (.name text))
      (behind : Shows line glyphs) :
      Shows (.code text :: line) (.name text :: glyphs)

namespace Line.Shows

variable {line : Line} {glyphs : List Glyph}

theorem characters_eq (shows_ : line.Shows glyphs) : line.characters = Glyph.charactersOf glyphs := by
  induction shows_ with
  | nil => rfl
  | fixed _ inductionHypothesis | spelled _ inductionHypothesis =>
      rw [Glyph.charactersOf_append, Glyph.charactersOf_known, ← inductionHypothesis]
      simp [characters, Piece.text]
  | name _ _ inductionHypothesis | inner _ _ inductionHypothesis | prose _ _ inductionHypothesis
  | code _ _ inductionHypothesis | word _ _ inductionHypothesis =>
      rw [Glyph.charactersOf_cons, ← inductionHypothesis]
      rfl

theorem sound (shows_ : line.Shows glyphs) : ∀ glyph ∈ glyphs, glyph.IsSound := by
  induction shows_ with
  | nil => simp
  | fixed _ inductionHypothesis | spelled _ inductionHypothesis =>
      intro glyph member
      rcases List.mem_append.mp member with known | behind
      · obtain ⟨_, -, rfl⟩ := List.mem_map.mp known
        trivial
      · exact inductionHypothesis glyph behind
  | name sound _ inductionHypothesis | inner sound _ inductionHypothesis
  | prose sound _ inductionHypothesis | code sound _ inductionHypothesis
  | word sound _ inductionHypothesis =>
      exact List.forall_mem_cons.mpr ⟨sound, inductionHypothesis⟩

/-- A fixed part at the end of a line. -/
theorem append_fixed (shows_ : line.Shows glyphs) (characters : List Char) :
    Shows (line ++ [.fixed (String.ofList characters)]) (glyphs ++ characters.map .known) := by
  induction shows_ with
  | nil => simpa using fixed nil
  | fixed _ inductionHypothesis =>
      rw [List.append_assoc]
      exact fixed inductionHypothesis
  | spelled _ inductionHypothesis =>
      rw [List.append_assoc]
      exact spelled inductionHypothesis
  | name sound _ inductionHypothesis => exact name sound inductionHypothesis
  | inner sound _ inductionHypothesis => exact inner sound inductionHypothesis
  | prose sound _ inductionHypothesis => exact prose sound inductionHypothesis
  | code sound _ inductionHypothesis => exact code sound inductionHypothesis
  | word sound _ inductionHypothesis => exact word sound inductionHypothesis

end Line.Shows

/-! ### Rows of tokens -/

/-- A row imports nothing but what is allowed, leaves the delimiters `after` open where `pending` are
open in front of it, and declares the names `public` outside of all delimiters. -/
structure Complies
    (allowed : Import → Prop)
    (pending after : List Delimiter)
    (names : List String)
    (row : List Token) : Prop where
  opened : Token.openBehind pending row = some after
  imports : ∀ rest, ∀ imported ∈ Source.imports (row ++ rest),
    allowed imported ∨ imported ∈ Source.imports rest
  names : ∀ rest, ∀ name ∈ names, name ∈ publicNames pending (row ++ rest)

namespace Complies

variable
  {allowed : Import → Prop}
  {pending between after : List Delimiter}
  {front back : List String}
  {row behind : List Token}

theorem nil : Complies allowed pending pending [] [] :=
  ⟨rfl, fun _ _ member => .inr member, by simp⟩

theorem append
    (first : Complies allowed pending between front row)
    (second : Complies allowed between after back behind) :
    Complies allowed pending after (front ++ back) (row ++ behind) := by
  refine ⟨?_, ?_, ?_⟩
  · rw [Token.openBehind_append, first.opened, Option.bind_some, second.opened]
  · intro rest imported member
    rw [List.append_assoc] at member
    rcases first.imports _ imported member with allows | later
    · exact .inl allows
    · exact second.imports rest imported later
  · intro rest name member
    rw [List.append_assoc]
    rcases List.mem_append.mp member with inFront | inBack
    · exact first.names _ name inFront
    · obtain ⟨others, same⟩ := publicNames_append first.opened (behind ++ rest)
      rw [same]
      exact List.mem_append_right _ (second.names rest name inBack)

theorem forget (complies : Complies allowed pending after front row) :
    Complies allowed pending after [] row :=
  ⟨complies.opened, complies.imports, by simp⟩

/-- A row that holds no import complies. -/
theorem ofQuiet
    (opened : Token.openBehind pending row = some after)
    (noImport : .word "use" ∉ row) :
    Complies allowed pending after [] row :=
  ⟨opened, fun rest imported member => .inr (imports_append noImport rest ▸ member), by simp⟩

/-- A declaration of allowed imports complies. -/
theorem ofImport
    {line : ImportLine}
    (single : .word "use" ∉ line.tokens)
    (allows : ∀ imported ∈ line.imports, allowed imported) :
    Complies allowed pending pending [] (.word "use" :: line.tokens) :=
  ⟨line.openBehind_tokens pending,
    fun _ imported member => (ImportLine.mem_imports_append single member).imp_left (allows imported),
    by simp⟩

/-- A row that declares a name public outside of all delimiters. -/
theorem naming
    {declaring name : String}
    (complies : Complies allowed [] after front row)
    (declares : declaringWords.contains declaring = true)
    (begins : row = .word "pub" :: .word declaring :: .word name :: behind) :
    Complies allowed [] after [name] row := by
  refine ⟨complies.opened, complies.imports, fun rest other member => ?_⟩
  obtain rfl : other = name := List.mem_singleton.mp member
  rw [begins]
  have nothing : Token.openBehind [] [] = some [] := rfl
  exact mem_publicNames nothing declares (behind ++ rest)

end Complies

/-! ### Rows of lexemes -/

/-- Where a module is not generated, its imports are allowed. -/
def AllowsForeign (allowed : Import → Prop) : Prop :=
  ∀ imported : Import, (∃ last ∈ imported.path.getLast?, ¬isGeneratedName last) → allowed imported

/-- The names that lexemes declare public, where nothing is open in front of them. -/
def Lexeme.publicNames (pending : List Delimiter) (lexemes : List Lexeme) : List String :=
  match pending with
  | [] => (publicName? lexemes).toList
  | _ :: _ => []

/-- Lexemes with an outline comply. -/
theorem Lexeme.DescribesAll.complies
    {allowed : Import → Prop}
    {pending after : List Delimiter}
    {lexemes : List Lexeme}
    {row : List Token}
    (foreign : AllowsForeign allowed)
    (describes : DescribesAll lexemes row)
    (outline : outline? pending lexemes = some after) :
    Complies allowed pending after (Lexeme.publicNames pending lexemes) row := by
  have plain : Complies allowed pending after [] row := by
    unfold outline? at outline
    split at outline
    · next quiet =>
        exact .ofQuiet ((describes.openBehind pending).trans outline)
          (describes.noImport (List.all_eq_true.mp quiet))
    · obtain ⟨isForeign, same⟩ := Option.ite_none_right_eq_some.mp outline
      cases same
      obtain ⟨line, rfl, single, last, isLast, ordinary⟩ := exists_of_isForeignImport describes isForeign
      refine .ofImport single fun imported member => foreign imported ⟨last, ?_, ordinary⟩
      rwa [(ImportLine.path_of_mem_imports member).2]
  cases pending with
  | cons => exact plain
  | nil =>
      rw [Lexeme.publicNames]
      cases found : publicName? lexemes with
      | none => exact plain
      | some name =>
          obtain ⟨declaring, behind, declares, begins⟩ := exists_of_publicName? describes found
          exact plain.naming declares begins

/-! ### Lines that comply -/

section Lines

variable
  {allowed : Import → Prop}
  {pending between after : List Delimiter}
  {names front back : List String}
  {line : Line}
  {lines below : List Line}

/-- The tokens of a line comply, whatever text is behind it. -/
def Line.Complies
    (allowed : Import → Prop)
    (pending after : List Delimiter)
    (names : List String)
    (line : Line) : Prop :=
  ∀ text, ∃ row, Passes (line.characters ++ '\n' :: text) row text
    ∧ Artifact.Complies allowed pending after names row

/-- A line that is cut into lexemes with an outline. -/
theorem Line.Shows.complies
    {glyphs : List Glyph}
    {lexemes : List Lexeme}
    (foreign : AllowsForeign allowed)
    (shows_ : line.Shows glyphs)
    (cut : Lexeme.all? glyphs.length glyphs = some lexemes)
    (outline : Lexeme.outline? pending lexemes = some after) :
    line.Complies allowed pending after (Lexeme.publicNames pending lexemes) := by
  intro text
  obtain ⟨row, describes, passes⟩ := Lexeme.passes_all shows_.sound cut text
  refine ⟨row, ?_, describes.complies foreign outline⟩
  rw [shows_.characters_eq, ← List.append_nil row]
  exact passes.trans (Passes.blank (by decide))

/-- Blanks in front of a line do not count. -/
theorem Line.Complies.behindMargin (complies : line.Complies allowed pending after names) :
    Line.Complies allowed pending after names (.fixed Code.margin :: line) := by
  intro text
  obtain ⟨row, passes, complies⟩ := complies text
  have blank {text : List Char} : Passes (' ' :: text) [] text := Passes.blank (by decide)
  exact ⟨row, blank.trans (blank.trans (blank.trans (blank.trans passes))), complies⟩

/-- The lines comply, one behind the other. -/
inductive Comply (allowed : Import → Prop) :
    List Delimiter → List Delimiter → List String → List Line → Prop where
  | nil {pending : List Delimiter} : Comply allowed pending pending [] []
  | cons
      {pending between after : List Delimiter}
      {front back : List String}
      {line : Line}
      {lines : List Line}
      (first : line.Complies allowed pending between front)
      (rest : Comply allowed between after back lines) :
      Comply allowed pending after (front ++ back) (line :: lines)

namespace Comply

theorem append
    (first : Comply allowed pending between front lines)
    (second : Comply allowed between after back below) :
    Comply allowed pending after (front ++ back) (lines ++ below) := by
  induction first with
  | nil => exact second
  | cons complies _ inductionHypothesis =>
      rw [List.append_assoc]
      exact cons complies (inductionHypothesis second)

theorem single (complies : line.Complies allowed pending after names) :
    Comply allowed pending after names [line] := by
  simpa using cons complies nil

/-- Lines one level deeper. -/
theorem deeper
    {parts : List Code}
    (comply : Comply allowed pending after names (parts.flatMap Code.lines)) :
    Comply allowed pending after names (Code.deeper parts).lines := by
  rw [Code.deeper]
  generalize parts.flatMap Code.lines = lines at comply
  induction comply with
  | nil => exact nil
  | cons complies _ inductionHypothesis =>
      refine cons ?_ inductionHypothesis
      dsimp only
      split
      · exact complies
      · exact complies.behindMargin

/-- The tokens of all lines. -/
theorem exists_row
    (comply : Comply allowed pending after names lines)
    (text : List Char) :
    ∃ row, Passes (lines.flatMap (fun line => line.characters ++ ['\n']) ++ text) row text
      ∧ Complies allowed pending after names row := by
  induction comply with
  | nil => exact ⟨[], Passes.refl text, .nil⟩
  | @cons pending between after front back line lines first _ inductionHypothesis =>
      obtain ⟨behind, passesBehind, compliesBehind⟩ := inductionHypothesis
      obtain ⟨row, passes, complies⟩ :=
        first (lines.flatMap (fun line => line.characters ++ ['\n']) ++ text)
      refine ⟨row ++ behind, ?_, complies.append compliesBehind⟩
      rw [List.flatMap_cons, List.append_assoc, List.append_assoc]
      exact passes.trans passesBehind

theorem forget (comply : Comply allowed pending after names lines) :
    Comply allowed pending after [] lines := by
  induction comply with
  | nil => exact nil
  | cons complies _ inductionHypothesis =>
      have quiet : Line.Complies allowed _ _ [] _ := fun text =>
        let ⟨row, passes, known⟩ := complies text
        ⟨row, passes, known.forget⟩
      exact cons quiet inductionHypothesis

/-- Balanced parts for each of some elements. -/
theorem each
    {α : Type}
    {elements : List α}
    {parts : α → List Code}
    (inside : ∀ element ∈ elements,
      Comply allowed pending pending [] ((parts element).flatMap Code.lines)) :
    Comply allowed pending pending [] (Code.each elements parts).lines := by
  rw [Code.each, Code.all]
  induction elements with
  | nil => exact nil
  | cons element elements inductionHypothesis =>
      rw [List.forall_mem_cons] at inside
      rw [List.flatMap_cons, List.flatMap_append]
      exact inside.1.append (inductionHypothesis inside.2)

/-- Balanced parts that are there if the condition holds, and the names with them. -/
theorem when
    (condition : Bool)
    {body : List Code}
    (inside : Comply allowed pending pending names (body.flatMap Code.lines)) :
    Comply allowed pending pending (if condition then names else []) (Code.when condition body).lines := by
  cases condition with
  | false => exact nil
  | true => exact inside

end Comply

end Lines

/-! ### Outlines -/

/-- The delimiters that are open behind the glyphs of a line, and the names that the line declares
public. -/
def Glyph.outline?
    (pending : List Delimiter)
    (glyphs : List Glyph) :
    Option (List Delimiter × List String) :=
  match Lexeme.all? glyphs.length glyphs with
  | some lexemes =>
      match Lexeme.outline? pending lexemes with
      | some after => some (after, Lexeme.publicNames pending lexemes)
      | none => none
  | none => none

theorem Line.Shows.complies_of_outline?
    {allowed : Import → Prop}
    {pending after : List Delimiter}
    {names : List String}
    {line : Line}
    {glyphs : List Glyph}
    (foreign : AllowsForeign allowed)
    (shows_ : line.Shows glyphs)
    (outline : Glyph.outline? pending glyphs = some (after, names)) :
    line.Complies allowed pending after names := by
  unfold Glyph.outline? at outline
  split at outline
  · next cut =>
      split at outline
      · next outlined =>
          cases outline
          exact shows_.complies foreign cut outlined
      · contradiction
  · contradiction

/-- What stands between a conditional and its alternative. -/
def turnChars : List Char :=
  ['\x7d', ' ', 'e', 'l', 's', 'e', ' ', '\x7b']

/-- Code with an outline: each of its lines has one where it stands, or the code is known to comply
from elsewhere. -/
inductive Outlined (allowed : Import → Prop) :
    List Delimiter → List Delimiter → List String → List Code → Prop where
  | nil {pending : List Delimiter} : Outlined allowed pending pending [] []
  | line
      {pending between after : List Delimiter}
      {front back : List String}
      {line : Line}
      {glyphs : List Glyph}
      {parts : List Code}
      (shows_ : line.Shows glyphs)
      (outline : Glyph.outline? pending glyphs = some (between, front))
      (behind : Outlined allowed between after back parts) :
      Outlined allowed pending after (front ++ back) (.line line :: parts)
  | nest
      {pending inside inner between after : List Delimiter}
      {front middle last back : List String}
      {opening closing : Line}
      {openingGlyphs closingGlyphs : List Glyph}
      {body parts : List Code}
      (opens : opening.Shows openingGlyphs)
      (openingOutline : Glyph.outline? pending openingGlyphs = some (inside, front))
      (outlined : Outlined allowed inside inner middle body)
      (closes : closing.Shows closingGlyphs)
      (closingOutline : Glyph.outline? inner closingGlyphs = some (between, last))
      (behind : Outlined allowed between after back parts) :
      Outlined allowed pending after (front ++ middle ++ last ++ back)
        (.nest opening body closing :: parts)
  | block
      {pending inside inner between after : List Delimiter}
      {front middle last back : List String}
      {head : Line}
      {glyphs : List Glyph}
      {body parts : List Code}
      (opens : head.Shows glyphs)
      (openingOutline : Glyph.outline? pending (glyphs ++ [' ', '\x7b'].map .known)
        = some (inside, front))
      (outlined : Outlined allowed inside inner middle body)
      (closingOutline : Glyph.outline? inner (['\x7d'].map .known) = some (between, last))
      (behind : Outlined allowed between after back parts) :
      Outlined allowed pending after (front ++ middle ++ last ++ back) (.block head body :: parts)
  | hang
      {pending inside between after : List Delimiter}
      {front middle back : List String}
      {head : Line}
      {glyphs : List Glyph}
      {body parts : List Code}
      (opens : head.Shows glyphs)
      (outline : Glyph.outline? pending glyphs = some (inside, front))
      (outlined : Outlined allowed inside between middle body)
      (behind : Outlined allowed between after back parts) :
      Outlined allowed pending after (front ++ middle ++ back) (.hang head body :: parts)
  | either
      {pending inside inner otherwiseInside otherwiseInner between after : List Delimiter}
      {front middle turn otherwiseMiddle last back : List String}
      {head closing : Line}
      {glyphs closingGlyphs : List Glyph}
      {body otherwise parts : List Code}
      (opens : head.Shows glyphs)
      (openingOutline : Glyph.outline? pending (glyphs ++ [' ', '\x7b'].map .known)
        = some (inside, front))
      (outlined : Outlined allowed inside inner middle body)
      (turnOutline : Glyph.outline? inner (turnChars.map .known)
        = some (otherwiseInside, turn))
      (otherwiseOutlined :
        Outlined allowed otherwiseInside otherwiseInner otherwiseMiddle otherwise)
      (closes : closing.Shows closingGlyphs)
      (closingOutline : Glyph.outline? otherwiseInner closingGlyphs = some (between, last))
      (behind : Outlined allowed between after back parts) :
      Outlined allowed pending after
        (front ++ middle ++ turn ++ otherwiseMiddle ++ last ++ back)
        (.either head body otherwise closing :: parts)
  | when
      {pending after : List Delimiter}
      {names back : List String}
      {condition : Bool}
      {body parts : List Code}
      (outlined : condition = true → Outlined allowed pending pending names body)
      (behind : Outlined allowed pending after back parts) :
      Outlined allowed pending after back (.when condition body :: parts)
  | known
      {pending between after : List Delimiter}
      {back : List String}
      {code : Code}
      {parts : List Code}
      (comply : Comply allowed pending between [] code.lines)
      (behind : Outlined allowed between after back parts) :
      Outlined allowed pending after back (code :: parts)

namespace Outlined

variable
  {allowed : Import → Prop}
  {pending after : List Delimiter}
  {names : List String}
  {parts : List Code}

/-- The lines of outlined code comply. -/
theorem comply
    (foreign : AllowsForeign allowed)
    (outlined : Outlined allowed pending after names parts) :
    Comply allowed pending after names (parts.flatMap Code.lines) := by
  induction outlined with
  | nil => exact .nil
  | line shows_ outline _ inductionHypothesis =>
      exact .cons (shows_.complies_of_outline? foreign outline) inductionHypothesis
  | nest opens openingOutline _ closes closingOutline _ body behind =>
      have first := Comply.single (opens.complies_of_outline? foreign openingOutline)
      have last := Comply.single (closes.complies_of_outline? foreign closingOutline)
      have whole := ((first.append body.deeper).append last).append behind
      simpa [Code.nest, Code.all, Code.line] using whole
  | block opens openingOutline _ closingOutline _ body behind =>
      have opening := opens.append_fixed [' ', '\x7b']
      have closing := Line.Shows.nil.append_fixed ['\x7d']
      have first := Comply.single (opening.complies_of_outline? foreign openingOutline)
      have last := Comply.single (closing.complies_of_outline? foreign closingOutline)
      have whole := ((first.append body.deeper).append last).append behind
      simpa [Code.block, Code.nest, Code.all, Code.line] using whole
  | hang opens outline _ _ body behind =>
      have first := Comply.single (opens.complies_of_outline? foreign outline)
      have whole := (first.append body.deeper).append behind
      simpa [Code.hang, Code.all, Code.line] using whole
  | either opens openingOutline _ turnOutline _ closes closingOutline _ body otherwise behind =>
      have opening := opens.append_fixed [' ', '\x7b']
      have turn := Line.Shows.nil.append_fixed turnChars
      have first := Comply.single (opening.complies_of_outline? foreign openingOutline)
      have middle := Comply.single (turn.complies_of_outline? foreign turnOutline)
      have last := Comply.single (closes.complies_of_outline? foreign closingOutline)
      have whole :=
        ((((first.append body.deeper).append middle).append otherwise.deeper).append last).append behind
      simpa [Code.either, Code.all, Code.line, turnChars] using whole
  | @when _ _ _ _ condition body parts outlined _ inside behind =>
      cases condition with
      | false => exact behind
      | true =>
          have whole := (inside rfl).forget.append behind
          simpa [Code.when, Code.all] using whole
  | known comply _ behind => exact comply.append behind

/-- The same for the names that the outline comes to. -/
theorem comply_of_eq
    {known : List String}
    (foreign : AllowsForeign allowed)
    (outlined : Outlined allowed pending after names parts)
    (same : names = known) :
    Comply allowed pending after known (parts.flatMap Code.lines) :=
  same ▸ outlined.comply foreign

/-- The same where the names that the code declares do not matter. -/
theorem quiet
    (foreign : AllowsForeign allowed)
    (outlined : Outlined allowed pending after names parts) :
    Comply allowed pending after [] (parts.flatMap Code.lines) :=
  (outlined.comply foreign).forget

/-- The same for a single part. -/
theorem quiet_single
    {part : Code}
    (foreign : AllowsForeign allowed)
    (outlined : Outlined allowed pending after names [part]) :
    Comply allowed pending after [] part.lines := by
  simpa using outlined.quiet foreign

end Outlined

/-! ### Members -/

section Members

variable
  {allowed : Import → Prop}
  {pending : List Delimiter}
  {parts : List Code}

/-- Balanced parts with empty lines between them. -/
theorem Comply.intersperse
    (foreign : AllowsForeign allowed)
    (inside : ∀ part ∈ parts, Comply allowed pending pending [] part.lines) :
    Comply allowed pending pending [] ((parts.intersperse ("" : Code)).flatMap Code.lines) := by
  induction parts with
  | nil => exact .nil
  | cons part parts inductionHypothesis =>
      rw [List.forall_mem_cons] at inside
      have below := inductionHypothesis inside.2
      cases parts with
      | nil => simpa using inside.1
      | cons next parts =>
          have gap : Comply allowed pending pending [] (Code.line "").lines :=
            (Outlined.line (.fixed .nil) rfl .nil : Outlined allowed _ _ _ [.line ""]).quiet foreign
          exact inside.1.append (gap.append below)

/-- A block in braces of balanced parts. -/
theorem Comply.members
    {head : Line}
    {glyphs : List Glyph}
    {front names : List String}
    (foreign : AllowsForeign allowed)
    (shows_ : head.Shows glyphs)
    (empty : Glyph.outline? pending (glyphs ++ [' ', '\x7b', '\x7d'].map .known)
      = some (pending, front))
    (opening : Glyph.outline? pending (glyphs ++ [' ', '\x7b'].map .known)
      = some (.brace :: pending, names))
    (inside : ∀ part ∈ parts, Comply allowed (.brace :: pending) (.brace :: pending) [] part.lines) :
    Comply allowed pending pending [] (Code.members head parts).lines := by
  cases parts with
  | nil =>
      have line := (shows_.append_fixed [' ', '\x7b', '\x7d']).complies_of_outline? foreign empty
      exact (Comply.single line).forget
  | cons first parts =>
      have body := Comply.intersperse foreign inside
      have block : Outlined allowed pending pending _
          [.block head [⟨((first :: parts).intersperse ("" : Code)).flatMap Code.lines⟩]] :=
        .block shows_ opening (.known body .nil) rfl .nil
      have whole := block.quiet foreign
      simpa [Code.members, Code.block, Code.nest, Code.deeper, Code.all] using whole

end Members

end Scaffold.Artifact
