import Scaffold.Proofs.Artifact.Outline
import Scaffold.Proofs.Source.Entries

/-!
Contract: the tokens of indented text, up to what a row is not read for.

Owns:
- the sketch of the tokens of glyphs, found without a look at the parts that are not known;
- what holds of the tokens that are read of lines, put together line by line;
- the tokens of a line with whole tokens in it of which more is known;
- code that is read as whole entries.

Does not own: what the tokens declare.
-/

namespace Scaffold.Artifact

open Source Source.Scan

/-! ### Sketches -/

namespace Glyph

/-- The word of a run, put together of the parts that are not known and what stands around them. -/
def runText (run : List Glyph) : String :=
  match run with
  | [.name text] => text
  | .name text :: back => text ++ wordOf back
  | _ =>
      match run.dropWhile isKnown with
      | .inner text :: back => wordOf (run.takeWhile isKnown) ++ text ++ wordOf back
      | _ => wordOf run

theorem toList_wordOf (run : List Glyph) : (wordOf run).toList = charactersOf run :=
  String.toList_ofList

theorem runText_eq (run : List Glyph) : runText run = wordOf run := by
  apply String.toList_inj.mp
  unfold runText
  split
  · simp [toList_wordOf, charactersOf, characters]
  · simp [toList_wordOf, charactersOf_cons, characters]
  · split
    · next text back same =>
        conv => rhs; rw [← List.takeWhile_append_dropWhile (p := isKnown) (l := run), same]
        simp [toList_wordOf, charactersOf_append, charactersOf_cons, characters]
    · rfl

end Glyph

namespace Lexeme

/-- The sketch of the tokens of lexemes, if there are no whole tokens among them. -/
def sketch? : List Lexeme → Option (List Token)
  | [] => some []
  | .blank :: rest => sketch? rest
  | .word run :: rest => (sketch? rest).map (.word (Glyph.runText run) :: ·)
  | .mark char spacing? :: rest =>
      if char = ':' then
        match spacing? with
        | some spacing => (sketch? rest).map (.mark ':' spacing :: ·)
        | none => none
      else (sketch? rest).map (.mark char .alone :: ·)
  | .opening delimiter :: rest => (sketch? rest).map (.opening delimiter :: ·)
  | .closing delimiter :: rest => (sketch? rest).map (.closing delimiter :: ·)
  | .literal :: rest => (sketch? rest).map (.literal "" :: ·)
  | .note :: rest => (sketch? rest).map ((Passes.noteTokens []).map Token.sketch ++ ·)
  | .code :: _ => none

theorem DescribesAll.map_sketch
    {lexemes : List Lexeme}
    {row tokens : List Token}
    (describes : DescribesAll lexemes row)
    (found : sketch? lexemes = some tokens) :
    row.map Token.sketch = tokens := by
  induction describes generalizing tokens with
  | nil =>
      cases found
      rfl
  | @cons lexeme lexemes row behind first _ inductionHypothesis =>
      rw [List.map_append]
      cases lexeme with
      | blank =>
          cases first
          exact inductionHypothesis found
      | word run =>
          obtain ⟨more, foundMore, rfl⟩ := Option.map_eq_some_iff.mp found
          obtain ⟨rfl, -⟩ := first
          rw [inductionHypothesis foundMore, Glyph.runText_eq]
          rfl
      | mark char spacing? =>
          obtain ⟨spacing, rfl, same⟩ := first
          unfold sketch? at found
          by_cases colon : char = ':'
          · rw [if_pos colon] at found
            cases spacing? with
            | none => contradiction
            | some known =>
                obtain ⟨more, foundMore, rfl⟩ := Option.map_eq_some_iff.mp found
                rw [inductionHypothesis foundMore, same known rfl, colon]
                rfl
          · rw [if_neg colon] at found
            obtain ⟨more, foundMore, rfl⟩ := Option.map_eq_some_iff.mp found
            rw [inductionHypothesis foundMore, List.map_singleton, Token.sketch, if_neg colon]
            rfl
      | opening | closing =>
          cases first
          obtain ⟨more, foundMore, rfl⟩ := Option.map_eq_some_iff.mp found
          rw [inductionHypothesis foundMore]
          rfl
      | literal =>
          obtain ⟨_, rfl⟩ := first
          obtain ⟨more, foundMore, rfl⟩ := Option.map_eq_some_iff.mp found
          rw [inductionHypothesis foundMore]
          rfl
      | note =>
          obtain ⟨contents, rfl⟩ := first
          obtain ⟨more, foundMore, rfl⟩ := Option.map_eq_some_iff.mp found
          rw [inductionHypothesis foundMore]
          rfl
      | code => contradiction

/-- The lexemes in front of the first whole tokens, and the glyphs from there on. -/
def before? : Nat → List Glyph → Option (List Lexeme × List Glyph)
  | _, .code text :: rest => some ([], .code text :: rest)
  | fuel + 1, glyph :: rest =>
      match next? (glyph :: rest) with
      | some (lexeme, after) => (before? fuel after).map fun found => (lexeme :: found.1, found.2)
      | none => none
  | _, _ => none

/-- What the scanner reads in front of the first whole tokens. -/
theorem passes_before
    {fuel : Nat}
    {glyphs after : List Glyph}
    {lexemes : List Lexeme}
    (sound : ∀ glyph ∈ glyphs, glyph.IsSound)
    (cut : before? fuel glyphs = some (lexemes, after))
    (back : List Char) :
    (∀ glyph ∈ after, glyph.IsSound) ∧ ∃ row, DescribesAll lexemes row
      ∧ Passes (Glyph.charactersOf glyphs ++ '\n' :: back) row
        (Glyph.charactersOf after ++ '\n' :: back) := by
  fun_induction before? fuel glyphs generalizing lexemes with
  | case1 =>
      cases cut
      exact ⟨sound, [], .nil, Passes.refl _⟩
  | case2 fuel glyph rest _ lexeme between first inductionHypothesis =>
      obtain ⟨⟨_, _⟩, cutBehind, same⟩ := Option.map_eq_some_iff.mp cut
      cases same
      obtain ⟨row, describes, passes⟩ := passes_next sound first back
      obtain ⟨soundAfter, rowBehind, describesBehind, passesBehind⟩ := inductionHypothesis
        (fun glyph member => sound glyph (subset_of_next? first member)) cutBehind
      exact ⟨soundAfter, row ++ rowBehind, .cons describes describesBehind,
        passes.trans passesBehind⟩
  | case3 | case4 => contradiction

end Lexeme

/-- The sketch of the tokens of glyphs. -/
def Glyph.sketch? (glyphs : List Glyph) : Option (List Token) :=
  (Lexeme.all? glyphs.length glyphs).bind Lexeme.sketch?

/-- The sketch of the tokens in front of the first whole tokens, their text, the glyphs behind them and
the sketch of the tokens of these. -/
def Glyph.around? (glyphs : List Glyph) : Option (List Token × String × List Glyph × List Token) :=
  match Lexeme.before? glyphs.length glyphs with
  | some (lexemes, .code text :: back) =>
      match Lexeme.sketch? lexemes, Glyph.sketch? back with
      | some front, some rear => some (front, text, back, rear)
      | _, _ => none
  | _ => none

/-! ### Lines -/

/-- The tokens of a line, whatever text is behind it, have a sketch with the property. -/
def Line.Reads (holds : List Token → Prop) (line : Line) : Prop :=
  ∀ text, ∃ row, Passes (line.characters ++ '\n' :: text) row text ∧ holds (row.map Token.sketch)

namespace Line

variable
  {line : Line}
  {glyphs : List Glyph}
  {holds : List Token → Prop}

theorem Shows.passes
    {tokens : List Token}
    (sound : ∀ glyph ∈ glyphs, glyph.IsSound)
    (found : Glyph.sketch? glyphs = some tokens)
    (text : List Char) :
    ∃ row, Passes (Glyph.charactersOf glyphs ++ '\n' :: text) row text
      ∧ row.map Token.sketch = tokens := by
  obtain ⟨lexemes, cut, found⟩ := Option.bind_eq_some_iff.mp found
  obtain ⟨row, describes, passes⟩ := Lexeme.passes_all sound cut text
  refine ⟨row, ?_, describes.map_sketch found⟩
  rw [← List.append_nil row]
  exact passes.trans (Passes.blank (by decide))

/-- A line without whole tokens. -/
theorem Shows.reads
    {tokens : List Token}
    (shows_ : line.Shows glyphs)
    (found : Glyph.sketch? glyphs = some tokens) :
    line.Reads (· = tokens) := by
  intro text
  rw [shows_.characters_eq]
  exact Shows.passes shows_.sound found text

/-- A line with whole tokens in it. -/
theorem Shows.reads_around
    {front rear : List Token}
    {code : String}
    {back : List Glyph}
    (shows_ : line.Shows glyphs)
    (found : Glyph.around? glyphs = some (front, code, back, rear))
    (inside : ∀ text, ∃ row, Passes (code.toList ++ (Glyph.charactersOf back ++ '\n' :: text)) row
        (Glyph.charactersOf back ++ '\n' :: text)
      ∧ holds (row.map Token.sketch)) :
    line.Reads fun row => ∃ middle, holds middle ∧ row = front ++ middle ++ rear := by
  intro text
  unfold Glyph.around? at found
  split at found
  · next lexemes code back cut =>
      split at found
      · next front rear foundFront foundRear =>
          cases found
          obtain ⟨soundAfter, row, describes, passes⟩ :=
            Lexeme.passes_before shows_.sound cut text
          obtain ⟨rowInside, passesInside, known⟩ := inside text
          obtain ⟨rowBack, passesBack, same⟩ := Shows.passes
            (fun glyph member => soundAfter glyph (List.mem_cons_of_mem _ member)) foundRear text
          rw [shows_.characters_eq]
          rw [Glyph.charactersOf_cons, Glyph.characters, List.append_assoc] at passes
          refine ⟨row ++ (rowInside ++ rowBack), passes.trans (passesInside.trans passesBack), _, known,
            ?_⟩
          rw [List.map_append, List.map_append, describes.map_sketch foundFront, same,
            List.append_assoc]
      · contradiction
  · contradiction

theorem Reads.mono
    {more : List Token → Prop}
    (reads : line.Reads holds)
    (follows : ∀ row, holds row → more row) :
    line.Reads more := by
  intro text
  obtain ⟨row, passes, known⟩ := reads text
  exact ⟨row, passes, follows _ known⟩

/-- Blanks in front of a line do not count. -/
theorem Reads.behindMargin (reads : line.Reads holds) :
    Line.Reads holds (.fixed Code.margin :: line) := by
  intro text
  obtain ⟨row, passes, known⟩ := reads text
  have blank {text : List Char} : Passes (' ' :: text) [] text := Passes.blank (by decide)
  exact ⟨row, blank.trans (blank.trans (blank.trans (blank.trans passes))), known⟩

end Line

/-- The tokens of the lines together have a sketch with the property: what is read of the lines behind
the first has it behind what is read of the first. -/
inductive Reads : (List Token → Prop) → List Line → Prop where
  | nil {holds : List Token → Prop} (known : holds []) : Reads holds []
  | cons
      {holds first : List Token → Prop}
      {line : Line}
      {lines : List Line}
      (reads : line.Reads first)
      (behind : ∀ row, first row → Reads (fun rest => holds (row ++ rest)) lines) :
      Reads holds (line :: lines)

namespace Reads

variable
  {holds more : List Token → Prop}
  {lines below : List Line}

theorem mono
    (reads : Reads holds lines)
    (follows : ∀ row, holds row → more row) :
    Reads more lines := by
  induction reads generalizing more with
  | nil known => exact nil (follows _ known)
  | cons reads _ inductionHypothesis =>
      exact cons reads fun row known => inductionHypothesis row known fun rest => follows _

theorem append
    (reads : Reads holds lines)
    (behind : ∀ row, holds row → Reads (fun rest => more (row ++ rest)) below) :
    Reads more (lines ++ below) := by
  induction reads generalizing more with
  | nil known => exact behind _ known
  | cons reads _ inductionHypothesis =>
      refine cons reads fun row known => inductionHypothesis row known fun rest knownRest => ?_
      simpa only [List.append_assoc] using behind _ knownRest

theorem single {line : Line} (reads : line.Reads holds) : Reads holds [line] :=
  cons reads fun row known => nil (by rwa [List.append_nil])

/-- Lines one level deeper. -/
theorem deeper {parts : List Code} (reads : Reads holds (parts.flatMap Code.lines)) :
    Reads holds (Code.deeper parts).lines := by
  rw [Code.deeper]
  generalize parts.flatMap Code.lines = lines at reads
  induction reads with
  | nil known => exact nil known
  | cons reads _ inductionHypothesis =>
      refine cons ?_ inductionHypothesis
      dsimp only
      split
      · exact reads
      · exact reads.behindMargin

/-- The tokens of all lines. -/
theorem exists_row (reads : Reads holds lines) (text : List Char) :
    ∃ row, Passes (lines.flatMap (fun line => line.characters ++ ['\n']) ++ text) row text
      ∧ holds (row.map Token.sketch) := by
  induction reads with
  | nil known => exact ⟨[], Passes.refl text, known⟩
  | @cons holds first line lines reads _ inductionHypothesis =>
      obtain ⟨row, passes, known⟩ :=
        reads (lines.flatMap (fun line => line.characters ++ ['\n']) ++ text)
      obtain ⟨behind, passesBehind, knownBehind⟩ := inductionHypothesis _ known
      refine ⟨row ++ behind, ?_, ?_⟩
      · rw [List.flatMap_cons, List.append_assoc, List.append_assoc]
        exact passes.trans passesBehind
      · rwa [List.map_append]

end Reads

theorem openBehind_map_sketch (pending : List Delimiter) (row : List Token) :
    Token.openBehind pending (row.map Token.sketch) = Token.openBehind pending row := by
  induction row generalizing pending with
  | nil => rfl
  | cons token row inductionHypothesis =>
      cases token with
      | word | literal | mark => exact inductionHypothesis pending
      | opening delimiter => exact inductionHypothesis (delimiter :: pending)
      | closing delimiter =>
          cases pending with
          | nil => rfl
          | cons innermost outer =>
              show (if _ then Token.openBehind outer (row.map Token.sketch) else none) = _
              rw [inductionHypothesis]
              rfl

/-- Lines that comply are read as a row with their delimiters. -/
theorem Comply.reads
    {allowed : Import → Prop}
    {pending after : List Delimiter}
    {names : List String}
    {lines : List Line}
    (comply : Comply allowed pending after names lines) :
    Reads (fun row => Token.openBehind pending row = some after) lines := by
  induction comply with
  | nil => exact .nil rfl
  | @cons pending between after front back line lines complies _ inductionHypothesis =>
      have first : line.Reads fun row => Token.openBehind pending row = some between := by
        intro text
        obtain ⟨row, passes, known⟩ := complies text
        exact ⟨row, passes, (openBehind_map_sketch pending row).trans known.opened⟩
      refine .cons first fun row opened => inductionHypothesis.mono fun rest openedRest => ?_
      rw [Token.openBehind_append, opened, Option.bind_some, openedRest]

/-- Outlined code is read as a balanced row. -/
theorem Outlined.balanced
    {names : List String}
    {parts : List Code}
    (outlined : Outlined (fun _ => True) [] [] names parts) :
    Reads (fun row => Token.openBehind [] row = some []) (parts.flatMap Code.lines) :=
  (outlined.quiet fun _ _ => trivial).reads

/-! ### Known code -/

namespace Reads

variable
  {front back : List Token}
  {lines below : List Line}

theorem line
    {content : Line}
    {glyphs : List Glyph}
    (shows_ : content.Shows glyphs)
    (found : Glyph.sketch? glyphs = some front) :
    Reads (· = front) [content] :=
  single (shows_.reads found)

/-- Lines whose tokens are known, in front of others. -/
theorem known_append
    (first : Reads (· = front) lines)
    (second : Reads (· = back) below) :
    Reads (· = front ++ back) (lines ++ below) := by
  refine first.append fun _ same => second.mono fun _ sameBehind => ?_
  rw [same, sameBehind]

end Reads

/-- Code without whole tokens: its tokens are known. -/
inductive Sketched : List Token → List Code → Prop where
  | nil : Sketched [] []
  | line
      {row rest : List Token}
      {line : Line}
      {glyphs : List Glyph}
      {parts : List Code}
      (shows_ : line.Shows glyphs)
      (found : Glyph.sketch? glyphs = some row)
      (behind : Sketched rest parts) :
      Sketched (row ++ rest) (.line line :: parts)
  | nest
      {first inner last rest : List Token}
      {opening closing : Line}
      {openingGlyphs closingGlyphs : List Glyph}
      {body parts : List Code}
      (opens : opening.Shows openingGlyphs)
      (found : Glyph.sketch? openingGlyphs = some first)
      (sketched : Sketched inner body)
      (closes : closing.Shows closingGlyphs)
      (foundClosing : Glyph.sketch? closingGlyphs = some last)
      (behind : Sketched rest parts) :
      Sketched (first ++ inner ++ last ++ rest) (.nest opening body closing :: parts)
  | block
      {first inner last rest : List Token}
      {head : Line}
      {glyphs : List Glyph}
      {body parts : List Code}
      (opens : head.Shows glyphs)
      (found : Glyph.sketch? (glyphs ++ [' ', '\x7b'].map .known) = some first)
      (sketched : Sketched inner body)
      (foundClosing : Glyph.sketch? (['\x7d'].map .known) = some last)
      (behind : Sketched rest parts) :
      Sketched (first ++ inner ++ last ++ rest) (.block head body :: parts)
  | hang
      {first inner rest : List Token}
      {head : Line}
      {glyphs : List Glyph}
      {body parts : List Code}
      (opens : head.Shows glyphs)
      (found : Glyph.sketch? glyphs = some first)
      (sketched : Sketched inner body)
      (behind : Sketched rest parts) :
      Sketched (first ++ inner ++ rest) (.hang head body :: parts)
  | whenOn
      {inner rest : List Token}
      {body parts : List Code}
      (sketched : Sketched inner body)
      (behind : Sketched rest parts) :
      Sketched (inner ++ rest) (.when true body :: parts)
  | whenOff
      {rest : List Token}
      {body parts : List Code}
      (behind : Sketched rest parts) :
      Sketched rest (.when false body :: parts)

theorem Sketched.reads
    {row : List Token}
    {parts : List Code}
    (sketched : Sketched row parts) :
    Reads (· = row) (parts.flatMap Code.lines) := by
  induction sketched with
  | nil => exact .nil rfl
  | line shows_ found _ inductionHypothesis =>
      exact (Reads.line shows_ found).known_append inductionHypothesis
  | nest opens found _ closes foundClosing _ inside behind =>
      have whole := (((Reads.line opens found).known_append inside.deeper).known_append
        (Reads.line closes foundClosing)).known_append behind
      simpa [Code.nest, Code.all, Code.line] using whole
  | block opens found _ foundClosing _ inside behind =>
      have opening := opens.append_fixed [' ', '\x7b']
      have closing := Line.Shows.nil.append_fixed ['\x7d']
      have whole := (((Reads.line opening found).known_append inside.deeper).known_append
        (Reads.line closing foundClosing)).known_append behind
      simpa [Code.block, Code.nest, Code.all, Code.line] using whole
  | hang opens found _ _ inside behind =>
      have whole := ((Reads.line opens found).known_append inside.deeper).known_append behind
      simpa [Code.hang, Code.all, Code.line] using whole
  | whenOn _ _ inside behind =>
      have whole := inside.known_append behind
      simpa [Code.when, Code.all] using whole
  | whenOff _ behind => simpa [Code.when, Code.all] using behind

/-! ### Blocks -/

/-- A row of a head and the brace that opens its block. -/
def Opens (heads : List Token → Prop) (row : List Token) : Prop :=
  ∃ head, heads head ∧ row = head ++ [.opening .brace]

/-- A row of a head and a block. -/
def Blocks (heads inside : List Token → Prop) (row : List Token) : Prop :=
  ∃ head inner, heads head ∧ inside inner ∧ row = head ++ .opening .brace :: (inner ++ [.closing .brace])

section Blocks

variable
  {heads holds : List Token → Prop}
  {lines below : List Line}

theorem Line.Shows.opens
    {opening : Line}
    {glyphs : List Glyph}
    {head : List Token}
    (shows_ : opening.Shows glyphs)
    (found : Glyph.sketch? glyphs = some (head ++ [.opening .brace])) :
    opening.Reads (Opens (· = head)) :=
  (shows_.reads found).mono fun _ same => ⟨head, rfl, same⟩

theorem Line.Shows.opens_around
    {opening : Line}
    {glyphs back : List Glyph}
    {front rear : List Token}
    {code : String}
    (shows_ : opening.Shows glyphs)
    (found : Glyph.around? glyphs = some (front, code, back, rear ++ [.opening .brace]))
    (inside : ∀ text, ∃ row, Passes (code.toList ++ (Glyph.charactersOf back ++ '\n' :: text)) row
        (Glyph.charactersOf back ++ '\n' :: text)
      ∧ holds (row.map Token.sketch)) :
    opening.Reads (Opens fun head => ∃ middle, holds middle ∧ head = front ++ middle ++ rear) := by
  refine (shows_.reads_around found inside).mono ?_
  rintro _ ⟨middle, known, rfl⟩
  exact ⟨_, ⟨middle, known, rfl⟩, (List.append_assoc ..).symm⟩

/-- Parts one level deeper between a head and a brace. -/
theorem Reads.nest
    {opening : Line}
    {body : List Code}
    (opens : opening.Reads (Opens heads))
    (inside : Reads holds (body.flatMap Code.lines)) :
    Reads (Blocks heads holds) (Code.nest opening body "\x7d").lines := by
  have whole : Reads (Blocks heads holds)
      ([opening] ++ ((Code.deeper body).lines ++ [[.fixed "\x7d"]])) := by
    refine (Reads.single opens).append ?_
    rintro _ ⟨head, isHead, rfl⟩
    refine inside.deeper.append fun inner isInner => ?_
    refine (Reads.line (.fixed .nil) rfl).mono ?_
    rintro _ rfl
    exact ⟨head, inner, isHead, isInner, by simp⟩
  simpa [Code.nest, Code.all, Code.line] using whole

end Blocks

/-- Code for each of some elements, where what is read of it holds of rows that are put together. -/
theorem Reads.each
    {α β : Type}
    {holds : List α → List Token → Prop}
    {elements : List β}
    {foundOf : β → List α}
    {partsOf : β → List Code}
    (nil : holds [] [])
    (append : ∀ {front back : List α} {row rest : List Token},
      holds front row → holds back rest → holds (front ++ back) (row ++ rest))
    (inside : ∀ element ∈ elements,
      Reads (holds (foundOf element)) ((partsOf element).flatMap Code.lines)) :
    Reads (holds (elements.flatMap foundOf)) ([Code.each elements partsOf].flatMap Code.lines) := by
  rw [List.flatMap_singleton, Code.each, Code.all]
  induction elements with
  | nil => exact .nil nil
  | cons element elements inductionHypothesis =>
      rw [List.forall_mem_cons] at inside
      rw [List.flatMap_cons, List.flatMap_cons, List.flatMap_append]
      exact inside.1.append fun _ known => (inductionHypothesis inside.2).mono fun _ => append known

/-! ### Listings -/

section Listing

variable
  {α : Type}
  {separator : Char}
  {read : RowEntry → Option α}
  {found more : List α}
  {parts below body : List Code}

/-- The code is read as whole entries, and what is read of these is `found`. -/
def Listing
    (separator : Char)
    (read : RowEntry → Option α)
    (found : List α)
    (parts : List Code) : Prop :=
  Reads (Enlists separator read found) (parts.flatMap Code.lines)

namespace Listing

theorem nil : Listing separator read [] [] :=
  Reads.nil .nil

theorem append
    (first : Listing separator read found parts)
    (second : Listing separator read more below) :
    Listing separator read (found ++ more) (parts ++ below) := by
  rw [Listing, List.flatMap_append]
  exact Reads.append first fun _ lists => second.mono fun _ => lists.append

/-- Code whose tokens are known. -/
theorem known
    {row : List Token}
    (sketched : Sketched row parts)
    (lists : Enlists separator read found row) :
    Listing separator read found parts :=
  sketched.reads.mono fun _ same => same ▸ lists

/-- Code that is there if the condition holds. -/
theorem when
    (condition : Bool)
    (inside : Listing separator read found body) :
    Listing separator read (if condition then found else []) [.when condition body] := by
  cases condition with
  | false => exact nil
  | true => simpa [Listing, Code.when, Code.all] using inside

/-- Code for each of some elements. -/
theorem each
    {β : Type}
    {elements : List β}
    {foundOf : β → List α}
    {partsOf : β → List Code}
    (inside : ∀ element ∈ elements, Listing separator read (foundOf element) (partsOf element)) :
    Listing separator read (elements.flatMap foundOf) [.each elements partsOf] :=
  Reads.each .nil Enlists.append inside

/-- An entry for each of some elements. -/
theorem each_single
    {β : Type}
    {elements : List β}
    {foundOf : β → α}
    {partsOf : β → List Code}
    (inside : ∀ element ∈ elements, Listing separator read [foundOf element] (partsOf element)) :
    Listing separator read (elements.map foundOf) [.each elements partsOf] := by
  rw [List.map_eq_flatMap]
  exact each inside

/-- An entry for each of some elements, with empty lines between them. -/
theorem intersperse
    {β : Type}
    {elements : List β}
    {foundOf : β → α}
    {partOf : β → Code}
    (inside : ∀ element ∈ elements, Listing separator read [foundOf element] [partOf element]) :
    Listing separator read (elements.map foundOf) ((elements.map partOf).intersperse "") := by
  have gap : Listing separator read [] [.line ""] := known (.line (.fixed .nil) rfl .nil) .nil
  induction elements with
  | nil => exact nil
  | cons element elements inductionHypothesis =>
      rw [List.forall_mem_cons] at inside
      have below := inductionHypothesis inside.2
      cases elements with
      | nil => exact inside.1.append nil
      | cons next elements => exact inside.1.append (gap.append below)

/-- An entry that a block ends: what leads its head, and the block with the rest of its head. -/
theorem block
    {leading heads holds : List Token → Prop}
    {code : Code}
    (leads : Reads leading (parts.flatMap Code.lines))
    (blocks : Reads (Blocks heads holds) code.lines)
    (known : ∀ lead head inner, leading lead → heads head → holds inner →
      IsFlat separator (lead ++ head) ∧ Token.openBehind [] inner = some []
        ∧ (read ⟨lead ++ head, some inner⟩).toList = found) :
    Listing separator read found (parts ++ [code]) := by
  rw [Listing, List.flatMap_append, List.flatMap_singleton]
  refine leads.append fun lead isLead => blocks.mono ?_
  rintro _ ⟨head, inner, isHead, isInner, rfl⟩
  obtain ⟨flat, balanced, reads⟩ := known lead head inner isLead isHead isInner
  have lists : Enlists separator read _ _ := Enlists.block flat balanced
  rw [reads] at lists
  simpa using lists

/-- A block with an entry for each of some elements and empty lines between them. -/
theorem members
    {β : Type}
    {elements : List β}
    {foundOf : β → α}
    {partOf : β → Code}
    {head : Line}
    {glyphs : List Glyph}
    (row : List Token)
    (shows_ : head.Shows glyphs)
    (empty : Glyph.sketch? (glyphs ++ [' ', '\x7b', '\x7d'].map .known)
      = some (row ++ [.opening .brace, .closing .brace]))
    (opening : Glyph.sketch? (glyphs ++ [' ', '\x7b'].map .known) = some (row ++ [.opening .brace]))
    (inside : ∀ element ∈ elements, Listing separator read [foundOf element] [partOf element]) :
    Reads (Blocks (· = row) (Enlists separator read (elements.map foundOf)))
      (Code.members head (elements.map partOf)).lines := by
  cases elements with
  | nil =>
      refine (Reads.line (shows_.append_fixed [' ', '\x7b', '\x7d']) empty).mono ?_
      rintro _ rfl
      exact ⟨row, [], rfl, .nil, rfl⟩
  | cons first elements =>
      exact Reads.nest ((shows_.append_fixed [' ', '\x7b']).opens opening) (intersperse inside)

end Listing

end Listing

end Scaffold.Artifact
