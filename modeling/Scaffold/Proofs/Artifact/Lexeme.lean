import Scaffold.Proofs.Artifact.Glyph
import Scaffold.Proofs.Artifact.Rendering

/-!
Contract: the tokens of a line some of whose parts are not known.

Owns:
- the lexemes that glyphs are cut into, found without a look at the parts that are not known;
- what is known of the tokens of a lexeme;
- the outline of a line: the delimiters that it opens and closes;
- the tokens that the scanner reads from a line with an outline.

Does not own: which lines there are.
-/

namespace Scaffold.Artifact

open Source Source.Scan Text

/-! ### Lexemes -/

/-- What the glyphs of a line are cut into. -/
inductive Lexeme where
  | blank
  | word (run : List Glyph)
  | mark (char : Char) (spacing : Option Spacing)
  | opening (delimiter : Delimiter)
  | closing (delimiter : Delimiter)
  | literal
  | note
  | code

namespace Lexeme

open Glyph

/-- The word that begins with a glyph. -/
def word? (first : Glyph) (rest : List Glyph) : Option (Lexeme × List Glyph) :=
  let run := first :: rest.takeWhile continues
  let after := rest.dropWhile continues
  if endsWord after && isDecided run then some (.word run, after) else none

/-- The documentation line that begins with a slash. -/
def note? : List Glyph → Option (Lexeme × List Glyph)
  | .known '/' :: .known '/' :: line => if noSlash line && isProse line then some (.note, []) else none
  | _ => none

/-- The quote of a lifetime, whose name is known. -/
def tick? : List Glyph → Option (Lexeme × List Glyph)
  | .known char :: rest =>
      if CharSort.of char == .letter && (rest.takeWhile continues).all isKnown
          && stops (rest.dropWhile continues) then
        some (.mark '\'' (some .joint), .known char :: rest)
      else none
  | _ => none

/-- The decimal integer that begins with a digit. -/
def number? (rest : List Glyph) : Option (Lexeme × List Glyph) :=
  let after := rest.dropWhile isDigit
  if endsDigits after then some (.literal, after) else none

/-- The first lexeme of glyphs. -/
def next? : List Glyph → Option (Lexeme × List Glyph)
  | [] => none
  | .known char :: rest =>
      match CharSort.of char with
      | .letter => word? (.known char) rest
      | .blank => some (.blank, rest)
      | .mark => some (.mark char (spacing? rest), rest)
      | .opening delimiter => if noSlash rest then some (.opening delimiter, rest) else none
      | .closing delimiter => some (.closing delimiter, rest)
      | .quote =>
          match afterString? rest with
          | some after => if endsWord after then some (.literal, after) else none
          | none => none
      | .slash => note? rest
      | .tick => tick? rest
      | .digit => number? rest
      | .other => none
  | .name text :: rest => word? (.name text) rest
  | .code _ :: rest => if stops rest then some (.code, rest) else none
  | .inner _ :: _ => none
  | .prose _ :: _ => none

/-- The lexemes of glyphs, of which there are at most as many as `fuel`. -/
def all? : Nat → List Glyph → Option (List Lexeme)
  | _, [] => some []
  | 0, _ :: _ => none
  | fuel + 1, glyph :: rest =>
      match next? (glyph :: rest) with
      | some (lexeme, after) => (all? fuel after).map (lexeme :: ·)
      | none => none

/-! ### The tokens of lexemes -/

/-- Is a run the word that begins an import? -/
def isUse : List Glyph → Bool
  | [.known 'u', .known 's', .known 'e'] => true
  | _ => false

/-- What is known of the tokens of a lexeme. -/
def Describes : Lexeme → List Token → Prop
  | .blank, tokens => tokens = []
  | .word run, tokens =>
      tokens = [.word (String.ofList (charactersOf run))]
        ∧ (isUse run = false → String.ofList (charactersOf run) ≠ "use")
  | .mark char spacing?, tokens =>
      ∃ spacing, tokens = [.mark char spacing] ∧ ∀ known ∈ spacing?, spacing = known
  | .opening delimiter, tokens => tokens = [.opening delimiter]
  | .closing delimiter, tokens => tokens = [.closing delimiter]
  | .literal, tokens => ∃ spelling, tokens = [.literal spelling]
  | .note, tokens => ∃ contents, tokens = Passes.noteTokens contents
  | .code, tokens => Inert tokens

theorem map_known_of_all
    {run : List Glyph}
    (known : run.all isKnown = true) :
    run = (charactersOf run).map .known := by
  induction run with
  | nil => rfl
  | cons glyph run inductionHypothesis =>
      rw [List.all_cons, Bool.and_eq_true] at known
      cases glyph with
      | known char => exact congrArg (.known char :: ·) (inductionHypothesis known.2)
      | name | inner | prose | code => exact absurd known.1 Bool.false_ne_true

theorem length_known_le (run : List Glyph) :
    (run.filter isKnown).length ≤ (charactersOf run).length := by
  induction run with
  | nil => exact Nat.le_refl _
  | cons glyph run inductionHypothesis =>
      rw [charactersOf_cons, List.length_append]
      cases glyph with
      | known char =>
          rw [List.filter_cons_of_pos rfl, characters, List.length_cons, List.length_singleton]
          omega
      | name | inner | prose | code =>
          rw [List.filter_cons_of_neg (by simp [isKnown])]
          omega

/-- A run that is decided is no import, unless it is spelled as one. -/
theorem ne_use_of_isDecided
    {first : Glyph}
    {more : List Glyph}
    (sound : first.IsSound)
    (begins : (∃ char, first = .known char) ∨ ∃ text, first = .name text)
    (decided : isDecided (first :: more) = true)
    (noUse : isUse (first :: more) = false) :
    String.ofList (charactersOf (first :: more)) ≠ "use" := by
  intro same
  have characterList : charactersOf (first :: more) = ['u', 's', 'e'] := by
    rw [← String.toList_ofList (l := charactersOf (first :: more)), same]
    rfl
  simp only [isDecided, Bool.or_eq_true, beq_iff_eq, Nat.ble_eq] at decided
  rcases decided with (single | known) | long
  · have alone : more = [] := List.eq_nil_of_length_eq_zero (by simpa using single)
    rcases begins with ⟨char, rfl⟩ | ⟨text, rfl⟩
    · rw [alone] at characterList
      cases characterList
    · apply sound.2
      simpa [alone, charactersOf, characters] using same
  · rw [map_known_of_all known, characterList] at noUse
    contradiction
  · have bound := length_known_le (first :: more)
    rw [characterList] at bound
    simp only [List.length_cons, List.length_nil] at bound
    omega

/-- The characters of a run are a word. -/
theorem isWord_of_isDecided
    {first : Glyph}
    {rest : List Glyph}
    (sound : first.IsSound)
    (soundRest : ∀ glyph ∈ rest, glyph.IsSound)
    (begins : (∃ char, first = .known char ∧ CharSort.of char = .letter) ∨ ∃ text, first = .name text)
    (decided : isDecided (first :: rest.takeWhile continues) = true) :
    isWord (String.ofList (charactersOf (first :: rest.takeWhile continues))) = true := by
  have letters := continues_of_mem_run soundRest
  rw [charactersOf_cons]
  rcases begins with ⟨char, rfl, letter⟩ | ⟨text, rfl⟩
  · have known := CharSort.holds_of char
    rw [letter] at known
    exact isWord_of_letters ((Bool.and_eq_true _ _ ▸ known).1) letters
  · have word : isWord text = true := sound.1
    simp only [isDecided, Bool.or_eq_true, beq_iff_eq, Nat.ble_eq] at decided
    rcases decided with (single | known) | long
    · have alone : rest.takeWhile continues = [] :=
        List.eq_nil_of_length_eq_zero (by simpa using single)
      rw [alone]
      simpa [charactersOf, characters] using word
    · cases known
    · refine isWord_append word letters ?_
      rw [List.filter_cons_of_neg (by simp [isKnown])] at long
      exact Nat.le_trans long (length_known_le _)

variable {glyphs rest after : List Glyph} {lexeme : Lexeme}

theorem passes_word
    {first : Glyph}
    (sound : first.IsSound)
    (soundRest : ∀ glyph ∈ rest, glyph.IsSound)
    (begins : (∃ char, first = .known char ∧ CharSort.of char = .letter) ∨ ∃ text, first = .name text)
    (cut : word? first rest = some (lexeme, after))
    (back : List Char) :
    ∃ tokens, lexeme.Describes tokens
      ∧ Passes (charactersOf (first :: rest) ++ '\n' :: back) tokens
        (charactersOf after ++ '\n' :: back) := by
  obtain ⟨checked, same⟩ := Option.ite_none_right_eq_some.mp cut
  cases same
  rw [Bool.and_eq_true] at checked
  refine ⟨_, ⟨rfl, fun noUse => ?_⟩, ?_⟩
  · exact ne_use_of_isDecided sound (begins.imp_left fun ⟨char, same, _⟩ => ⟨char, same⟩) checked.2
      noUse
  · have word := isWord_of_isDecided sound soundRest begins checked.2
    have passes := Passes.word word (ends_of_endsWord checked.1 back)
    rwa [String.toList_ofList, ← List.append_assoc, ← charactersOf_append, List.cons_append,
      List.takeWhile_append_dropWhile] at passes

theorem exists_of_afterString?
    (sound : ∀ glyph ∈ glyphs, glyph.IsSound)
    (found : afterString? glyphs = some after) :
    ∃ inside, IsInside inside ∧ charactersOf glyphs = inside ++ '"' :: charactersOf after := by
  fun_induction afterString? glyphs with
  | case1 | case4 | case6 => contradiction
  | case2 char rest quote =>
      have known := CharSort.holds_of char
      rw [quote, CharSort.holds, beq_iff_eq] at known
      cases found
      exact ⟨[], .nil, by rw [known]; rfl⟩
  | case3 rest _ inductionHypothesis =>
      obtain ⟨inside, isInside, same⟩ := inductionHypothesis (fun glyph member =>
        sound glyph (List.mem_cons_of_mem _ (List.mem_cons_of_mem _ member))) found
      refine ⟨'\\' :: 'n' :: inside, .newline isInside, ?_⟩
      rw [charactersOf_cons, charactersOf_cons, same]
      rfl
  | case5 char rest noQuote noOther inductionHypothesis =>
      obtain ⟨inside, isInside, same⟩ :=
        inductionHypothesis (fun glyph member => sound glyph (List.mem_cons_of_mem _ member)) found
      refine ⟨char :: inside, .char (CharSort.not_special noQuote noOther) isInside, ?_⟩
      rw [charactersOf_cons, same]
      rfl
  | case7 glyph rest unknown noCode inductionHypothesis =>
      obtain ⟨inside, isInside, same⟩ :=
        inductionHypothesis (fun glyph member => sound glyph (List.mem_cons_of_mem _ member)) found
      have plain := (sound glyph List.mem_cons_self).not_special (isKnown_eq_false unknown) noCode
      refine ⟨glyph.characters ++ inside, isInside.append plain, ?_⟩
      rw [charactersOf_cons, same, List.append_assoc]

/-! ### The first lexeme -/

theorem passes_string
    (sound : ∀ glyph ∈ rest, glyph.IsSound)
    (found : afterString? rest = some after)
    (ends : endsWord after = true)
    (back : List Char) :
    ∃ spelling, Passes ('"' :: (charactersOf rest ++ '\n' :: back)) [.literal spelling]
      (charactersOf after ++ '\n' :: back) := by
  obtain ⟨inside, isInside, same⟩ := exists_of_afterString? sound found
  have read := isInside.read (noLetter_of_endsWord ends back)
  have spelled : '"' :: (inside ++ '"' :: (charactersOf after ++ '\n' :: back))
      = (String.ofList ('"' :: (inside ++ ['"']))).toList ++ (charactersOf after ++ '\n' :: back) := by
    simp
  rw [spelled] at read
  refine ⟨String.ofList ('"' :: (inside ++ ['"'])), ?_⟩
  have passes := Passes.read (by simp) read
  rw [← spelled] at passes
  rw [same]
  simpa using passes

theorem passes_number
    {char : Char}
    (digit : CharSort.of char = .digit)
    (cut : number? rest = some (lexeme, after))
    (back : List Char) :
    ∃ tokens, lexeme.Describes tokens
      ∧ Passes (char :: (charactersOf rest ++ '\n' :: back)) tokens
        (charactersOf after ++ '\n' :: back) := by
  obtain ⟨ends, same⟩ := Option.ite_none_right_eq_some.mp cut
  cases same
  have ofSort {other : Char} (digit : CharSort.of other = .digit) : isAsciiDigit other = true := by
    have known := CharSort.holds_of other
    rw [digit, CharSort.holds, Bool.and_eq_true] at known
    exact known.1
  have isDigits : ∀ other ∈ char :: charactersOf (rest.takeWhile isDigit),
      isAsciiDigit other = true := by
    refine List.forall_mem_cons.mpr ⟨ofSort digit, fun other member => ?_⟩
    obtain ⟨glyph, inRun, member⟩ := List.mem_flatMap.mp member
    have isDigit := List.mem_takeWhile_imp inRun
    cases glyph with
    | name | inner | prose | code => exact absurd isDigit Bool.false_ne_true
    | known char =>
        rw [List.mem_singleton.mp member]
        exact ofSort (beq_iff_eq.mp isDigit)
  have read := Literal.after_digits (List.cons_ne_nil _ _) isDigits
    (endsDigits_of_endsDigits ends back)
  rw [← String.toList_ofList (l := char :: _)] at read
  have passes := Passes.read (by simp) read
  rw [String.toList_ofList, List.cons_append, ← List.append_assoc, ← charactersOf_append,
    List.takeWhile_append_dropWhile] at passes
  exact ⟨_, ⟨_, rfl⟩, passes⟩

/-- The characters of a documentation line hold no end of it. -/
theorem not_newline_of_isProse
    (sound : ∀ glyph ∈ glyphs, glyph.IsSound)
    (prose : isProse glyphs = true) :
    '\n' ∉ charactersOf glyphs := by
  fun_induction isProse glyphs with
  | case1 => simp [charactersOf]
  | case2 char rest inductionHypothesis =>
      rw [Bool.and_eq_true, Bool.not_eq_true'] at prose
      rw [charactersOf_cons, List.mem_append, not_or]
      refine ⟨?_, inductionHypothesis (fun glyph member => sound glyph (List.mem_cons_of_mem _ member))
        prose.2⟩
      intro member
      rw [← List.mem_singleton.mp member] at prose
      exact absurd prose.1 (by decide)
  | case3 => contradiction
  | case4 glyph rest unknown noCode inductionHypothesis =>
      rw [charactersOf_cons, List.mem_append, not_or]
      refine ⟨?_, inductionHypothesis (fun glyph member => sound glyph (List.mem_cons_of_mem _ member))
        prose⟩
      intro member
      exact (sound glyph List.mem_cons_self).not_special (isKnown_eq_false unknown) noCode _ member
        (by decide)

theorem passes_note
    (sound : ∀ glyph ∈ rest, glyph.IsSound)
    (cut : note? rest = some (lexeme, after))
    (back : List Char) :
    ∃ tokens, lexeme.Describes tokens
      ∧ Passes ('/' :: (charactersOf rest ++ '\n' :: back)) tokens
        (charactersOf after ++ '\n' :: back) := by
  unfold note? at cut
  split at cut
  · next line =>
      obtain ⟨checked, same⟩ := Option.ite_none_right_eq_some.mp cut
      cases same
      rw [Bool.and_eq_true] at checked
      have soundLine : ∀ glyph ∈ line, glyph.IsSound := fun glyph member =>
        sound glyph (List.mem_cons_of_mem _ (List.mem_cons_of_mem _ member))
      have plain : ∀ char ∈ (charactersOf line).head?, char ≠ '/' := by
        intro char first
        apply noSlash_of_noSlash soundLine checked.1 back
        rw [List.head?_append, first]
        rfl
      obtain ⟨contents, passes⟩ :=
        Passes.note (not_newline_of_isProse soundLine checked.2) plain back
      exact ⟨_, ⟨contents, rfl⟩, passes⟩
  · contradiction

theorem passes_tick
    (sound : ∀ glyph ∈ rest, glyph.IsSound)
    (cut : tick? rest = some (lexeme, after))
    (back : List Char) :
    ∃ tokens, lexeme.Describes tokens
      ∧ Passes ('\'' :: (charactersOf rest ++ '\n' :: back)) tokens
        (charactersOf after ++ '\n' :: back) := by
  unfold tick? at cut
  split at cut
  · next char rest =>
      obtain ⟨checked, same⟩ := Option.ite_none_right_eq_some.mp cut
      cases same
      simp only [Bool.and_eq_true, beq_iff_eq] at checked
      have known := CharSort.holds_of char
      rw [checked.1.1, CharSort.holds, Bool.and_eq_true] at known
      have letters := continues_of_mem_run fun glyph member =>
        sound glyph (List.mem_cons_of_mem _ member)
      have word := isWord_of_letters known.1 letters
      have passes := Passes.quote word (stops_of_stops checked.2 back)
      rw [String.toList_ofList, List.cons_append, ← List.append_assoc, ← charactersOf_append,
        List.takeWhile_append_dropWhile] at passes
      exact ⟨_, ⟨.joint, rfl, by rintro _ ⟨⟩; rfl⟩, passes⟩
  · contradiction

/-- How a mark is known to run into what follows is how it does. -/
theorem eq_of_mem_spacing
    {spacing : Spacing}
    (sound : ∀ glyph ∈ rest, glyph.IsSound)
    (back : List Char)
    (known : spacing ∈ spacing? rest) :
    (if (markChar? (charactersOf rest ++ '\n' :: back)).isSome then .joint else .alone) = spacing := by
  cases rest with
  | nil =>
      cases known
      rfl
  | cons glyph rest =>
      cases glyph with
      | inner | prose | code => contradiction
      | name text =>
          cases known
          obtain ⟨first, tail, spelled, starts, -⟩ :=
            exists_start_of_isWord (ends_of_stops stops_nil) (sound _ List.mem_cons_self).1
          rw [charactersOf_cons, characters, spelled, List.append_assoc, List.cons_append,
            markChar?_of_other (not_mark_of_startsWord starts)]
          rfl
      | known char =>
          rw [charactersOf_cons, characters, List.append_assoc, List.singleton_append]
          rw [spacing?] at known
          by_cases isSlash : CharSort.of char = .slash
          · rw [isSlash] at known
            contradiction
          have noSlash : char ≠ '/' := by
            rintro rfl
            exact isSlash rfl
          rw [(noComment_of_ne noSlash).markChar?_eq, CharSort.contains_markChars]
          split at known
          · next isMark =>
              cases known
              rw [isMark]
              rfl
          · next isTick =>
              cases known
              rw [isTick]
              rfl
          · contradiction
          · next noMark noTick _ =>
              cases known
              have noMarkChar : (CharSort.of char).isMark = false := by
                cases sort : CharSort.of char with
                | mark => exact absurd sort noMark
                | tick => exact absurd sort noTick
                | slash => exact absurd sort isSlash
                | letter | digit | blank | quote | opening | closing | other => rfl
              rw [noMarkChar]
              rfl

theorem passes_mark
    {char : Char}
    (sound : ∀ glyph ∈ rest, glyph.IsSound)
    (isMark : CharSort.of char = .mark)
    (back : List Char) :
    ∃ tokens, (Lexeme.mark char (spacing? rest)).Describes tokens
      ∧ Passes (char :: (charactersOf rest ++ '\n' :: back)) tokens
        (charactersOf rest ++ '\n' :: back) := by
  have known := CharSort.holds_of char
  simp only [isMark, CharSort.holds, Bool.and_eq_true, bne_iff_ne, List.contains_iff_mem] at known
  obtain ⟨⟨mark, noQuote⟩, noSlash⟩ := known
  exact ⟨_, ⟨_, rfl, fun spacing => eq_of_mem_spacing sound back⟩,
    Passes.mark mark noQuote (noComment_of_ne noSlash)⟩

/-- What the scanner reads from the first lexeme of a line. -/
theorem passes_next
    (sound : ∀ glyph ∈ glyphs, glyph.IsSound)
    (cut : next? glyphs = some (lexeme, after))
    (back : List Char) :
    ∃ tokens, lexeme.Describes tokens
      ∧ Passes (charactersOf glyphs ++ '\n' :: back) tokens (charactersOf after ++ '\n' :: back) := by
  cases glyphs with
  | nil => contradiction
  | cons glyph rest =>
      have soundGlyph := sound glyph List.mem_cons_self
      have soundRest : ∀ glyph ∈ rest, glyph.IsSound := fun glyph member =>
        sound glyph (List.mem_cons_of_mem _ member)
      cases glyph with
      | name text => exact passes_word soundGlyph soundRest (.inr ⟨text, rfl⟩) cut back
      | code text =>
          obtain ⟨stop, same⟩ := Option.ite_none_right_eq_some.mp cut
          cases same
          obtain ⟨tokens, passes, inert⟩ := soundGlyph.passes _ (stops_of_stops stop back)
          refine ⟨tokens, inert, ?_⟩
          rw [charactersOf_cons, List.append_assoc]
          exact passes
      | inner | prose => contradiction
      | known char =>
          have known := CharSort.holds_of char
          rw [next?] at cut
          split at cut
          · next letter =>
              exact passes_word soundGlyph soundRest (.inl ⟨char, rfl, letter⟩) cut back
          · next blank =>
              cases cut
              rw [blank, CharSort.holds, beq_iff_eq] at known
              subst known
              exact ⟨[], rfl, Passes.blank (by decide)⟩
          · next isMark =>
              cases cut
              exact passes_mark soundRest isMark back
          · next delimiter isOpening =>
              obtain ⟨plain, same⟩ := Option.ite_none_right_eq_some.mp cut
              cases same
              rw [isOpening, CharSort.holds, beq_iff_eq] at known
              refine ⟨_, rfl, ?_⟩
              rw [charactersOf_cons, characters, ← known, List.append_assoc]
              apply Passes.opening delimiter
              intro behind
              have first := noSlash_of_noSlash soundRest plain back
              constructor <;> intro same <;> rw [same] at first <;> exact first _ rfl rfl
          · next delimiter isClosing =>
              cases cut
              rw [isClosing, CharSort.holds, beq_iff_eq] at known
              refine ⟨_, rfl, ?_⟩
              rw [charactersOf_cons, characters, ← known, List.append_assoc]
              exact Passes.closing delimiter
          · next isQuote =>
              rw [isQuote, CharSort.holds, beq_iff_eq] at known
              subst known
              split at cut
              · next found =>
                  obtain ⟨ends, same⟩ := Option.ite_none_right_eq_some.mp cut
                  cases same
                  obtain ⟨spelling, passes⟩ := passes_string soundRest found ends back
                  exact ⟨_, ⟨spelling, rfl⟩, passes⟩
              · contradiction
          · next isSlash =>
              rw [isSlash, CharSort.holds, beq_iff_eq] at known
              subst known
              exact passes_note soundRest cut back
          · next isTick =>
              rw [isTick, CharSort.holds, beq_iff_eq] at known
              subst known
              exact passes_tick soundRest cut back
          · next digit => exact passes_number digit cut back
          · contradiction

/-! ### Lines -/

/-- Is the lexeme no word that begins an import? -/
def isQuiet : Lexeme → Bool
  | .word run => !isUse run
  | _ => true

/-- The delimiters that are open behind lexemes, the innermost first, where `pending` are open in
front of them; nothing if one is closed that is not the innermost. -/
def openBehind (pending : List Delimiter) : List Lexeme → Option (List Delimiter)
  | [] => some pending
  | .opening delimiter :: rest => openBehind (delimiter :: pending) rest
  | .closing delimiter :: rest =>
      match pending with
      | innermost :: outer => if innermost = delimiter then openBehind outer rest else none
      | [] => none
  | _ :: rest => openBehind pending rest

theorem balanced_noteTokens (contents : List Char) :
    Token.openBehind [] (Passes.noteTokens contents) = some [] :=
  rfl

/-- The tokens of the lexemes are, one behind the other, those of the row. -/
inductive DescribesAll : List Lexeme → List Token → Prop where
  | nil : DescribesAll [] []
  | cons
      {lexeme : Lexeme}
      {lexemes : List Lexeme}
      {row behind : List Token}
      (describes : lexeme.Describes row)
      (describesAll : DescribesAll lexemes behind) :
      DescribesAll (lexeme :: lexemes) (row ++ behind)

/-- The tokens of lexemes leave open what the lexemes do. -/
theorem DescribesAll.openBehind
    {lexemes : List Lexeme}
    {row : List Token}
    (describes : DescribesAll lexemes row)
    (pending : List Delimiter) :
    Token.openBehind pending row = openBehind pending lexemes := by
  induction describes generalizing pending with
  | nil => rfl
  | @cons lexeme lexemes row behind first _ inductionHypothesis =>
      cases lexeme with
      | blank =>
          cases first
          exact inductionHypothesis pending
      | word run =>
          obtain ⟨rfl, -⟩ := first
          exact inductionHypothesis pending
      | mark char spacing =>
          obtain ⟨_, rfl, -⟩ := first
          exact inductionHypothesis pending
      | opening delimiter =>
          cases first
          exact inductionHypothesis (delimiter :: pending)
      | closing delimiter =>
          cases first
          cases pending with
          | nil => rfl
          | cons innermost outer =>
              rw [Lexeme.openBehind, ← inductionHypothesis outer]
              rfl
      | literal =>
          obtain ⟨_, rfl⟩ := first
          exact inductionHypothesis pending
      | note =>
          obtain ⟨contents, rfl⟩ := first
          rw [Token.openBehind_of_balanced (balanced_noteTokens contents)]
          exact inductionHypothesis pending
      | code =>
          rw [Token.openBehind_of_balanced first.balanced]
          exact inductionHypothesis pending

theorem noImport_of_isQuiet
    {lexeme : Lexeme}
    {row : List Token}
    (describes : lexeme.Describes row)
    (quiet : lexeme.isQuiet = true) :
    .word "use" ∉ row := by
  cases lexeme with
  | blank =>
      cases describes
      exact List.not_mem_nil
  | word run =>
      obtain ⟨rfl, other⟩ := describes
      rw [isQuiet, Bool.not_eq_true'] at quiet
      rw [List.mem_singleton, Token.word.injEq]
      exact (other quiet).symm
  | mark char spacing =>
      obtain ⟨_, rfl, -⟩ := describes
      simp
  | opening delimiter | closing delimiter =>
      cases describes
      simp
  | literal =>
      obtain ⟨_, rfl⟩ := describes
      simp
  | note =>
      obtain ⟨contents, rfl⟩ := describes
      simp [Passes.noteTokens, docTokens, Token.group]
  | code => exact describes.noImport

theorem DescribesAll.noImport
    {lexemes : List Lexeme}
    {row : List Token}
    (describes : DescribesAll lexemes row)
    (quiet : ∀ lexeme ∈ lexemes, lexeme.isQuiet = true) :
    .word "use" ∉ row := by
  induction describes with
  | nil => exact List.not_mem_nil
  | cons first _ inductionHypothesis =>
      rw [List.mem_append, not_or]
      exact ⟨noImport_of_isQuiet first (quiet _ List.mem_cons_self),
        inductionHypothesis fun other member => quiet other (List.mem_cons_of_mem _ member)⟩

theorem subset_of_afterString? (found : afterString? glyphs = some after) : after ⊆ glyphs := by
  fun_induction afterString? glyphs with
  | case1 | case4 | case6 => contradiction
  | case2 =>
      cases found
      exact List.subset_cons_self _ _
  | case3 rest _ inductionHypothesis =>
      exact List.subset_cons_of_subset _ (List.subset_cons_of_subset _ (inductionHypothesis found))
  | case5 char rest _ _ inductionHypothesis | case7 char rest _ _ inductionHypothesis =>
      exact List.subset_cons_of_subset _ (inductionHypothesis found)

theorem subset_of_word?
    {first : Glyph}
    (cut : word? first rest = some (lexeme, after)) :
    after ⊆ rest := by
  obtain ⟨-, same⟩ := Option.ite_none_right_eq_some.mp cut
  cases same
  exact List.dropWhile_subset _

/-- What follows the first lexeme is a part of the glyphs. -/
theorem subset_of_next? (cut : next? glyphs = some (lexeme, after)) : after ⊆ glyphs := by
  unfold next? at cut
  split at cut
  · contradiction
  · apply List.subset_cons_of_subset
    split at cut
    · exact subset_of_word? cut
    · cases cut
      exact List.Subset.refl _
    · cases cut
      exact List.Subset.refl _
    · obtain ⟨-, same⟩ := Option.ite_none_right_eq_some.mp cut
      cases same
      exact List.Subset.refl _
    · cases cut
      exact List.Subset.refl _
    · split at cut
      · next found =>
          obtain ⟨-, same⟩ := Option.ite_none_right_eq_some.mp cut
          cases same
          exact subset_of_afterString? found
      · contradiction
    · unfold note? at cut
      split at cut
      · obtain ⟨-, same⟩ := Option.ite_none_right_eq_some.mp cut
        cases same
        exact List.nil_subset _
      · contradiction
    · unfold tick? at cut
      split at cut
      · obtain ⟨-, same⟩ := Option.ite_none_right_eq_some.mp cut
        cases same
        exact List.Subset.refl _
      · contradiction
    · obtain ⟨-, same⟩ := Option.ite_none_right_eq_some.mp cut
      cases same
      exact List.dropWhile_subset _
    · contradiction
  · exact List.subset_cons_of_subset _ (subset_of_word? cut)
  · obtain ⟨-, same⟩ := Option.ite_none_right_eq_some.mp cut
    cases same
    exact List.subset_cons_self _ _
  · contradiction
  · contradiction

/-- What the scanner reads from lexemes. -/
theorem passes_all
    {fuel : Nat}
    {lexemes : List Lexeme}
    (sound : ∀ glyph ∈ glyphs, glyph.IsSound)
    (cut : all? fuel glyphs = some lexemes)
    (back : List Char) :
    ∃ row, DescribesAll lexemes row
      ∧ Passes (charactersOf glyphs ++ '\n' :: back) row ('\n' :: back) := by
  induction fuel generalizing glyphs lexemes with
  | zero =>
      cases glyphs with
      | nil =>
          cases cut
          exact ⟨[], .nil, Passes.refl _⟩
      | cons => contradiction
  | succ fuel inductionHypothesis =>
      cases glyphs with
      | nil =>
          cases cut
          exact ⟨[], .nil, Passes.refl _⟩
      | cons glyph rest =>
          rw [all?] at cut
          split at cut
          · next lexeme after first =>
              obtain ⟨behind, cutBehind, rfl⟩ := Option.map_eq_some_iff.mp cut
              obtain ⟨row, describes, passes⟩ := passes_next sound first back
              have soundAfter : ∀ glyph ∈ after, glyph.IsSound := fun glyph member =>
                sound glyph (subset_of_next? first member)
              obtain ⟨rowBehind, describesBehind, passesBehind⟩ :=
                inductionHypothesis soundAfter cutBehind
              exact ⟨row ++ rowBehind, .cons describes describesBehind, passes.trans passesBehind⟩
          · contradiction

end Lexeme

end Scaffold.Artifact
