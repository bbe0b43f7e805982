import Scaffold.Artifact.Code
import Scaffold.Proofs.Source.Passage

/-!
Contract: the glyphs of a line some of whose parts are not known.

Owns:
- the sorts of characters;
- the glyphs of a line: its known characters, and its other parts as one each;
- what it takes for a part that is not known to be what its sort says;
- what glyphs spell: words, the insides of strings, and the stops behind them.

Does not own: how glyphs are cut into tokens.
-/

namespace Scaffold.Artifact

open Source Source.Scan Text

/-! ### Sorts of characters -/

/-- What a character is to the one who cuts a line; characters outside ASCII are not told apart. -/
inductive CharSort where
  | letter
  | digit
  | blank
  | quote
  | tick
  | slash
  | mark
  | opening (delimiter : Delimiter)
  | closing (delimiter : Delimiter)
  | other
  deriving DecidableEq, Repr

namespace CharSort

/-- The sort of a character. The first comparisons are those that letters need. -/
def of (char : Char) : CharSort :=
  let code := char.toNat
  if code.ble 96 then
    if code.ble 64 then
      match code with
      | 32 => .blank
      | 34 => .quote
      | 39 => .tick
      | 40 => .opening .parenthesis
      | 41 => .closing .parenthesis
      | 47 => .slash
      | 33 | 35 | 36 | 37 | 38 | 42 | 43 | 44 | 45 | 46 | 58 | 59 | 60 | 61 | 62 | 63 | 64 => .mark
      | _ => if Nat.ble 48 code && code.ble 57 then .digit else .other
    else if code.ble 90 then .letter
    else
      match code with
      | 91 => .opening .bracket
      | 93 => .closing .bracket
      | 94 => .mark
      | 95 => .letter
      | _ => .other
  else if code.ble 122 then .letter
  else
    match code with
    | 123 => .opening .brace
    | 124 => .mark
    | 125 => .closing .brace
    | 126 => .mark
    | _ => .other

/-- Does a character belong to a sort? Outside ASCII every character is another one. -/
def holds : CharSort → Char → Bool
  | .letter, char => Literal.startsWord char && continuesIdentifier char
  | .digit, char => isAsciiDigit char && continuesIdentifier char
  | .blank, char => char == ' '
  | .quote, char => char == '"'
  | .tick, char => char == '\''
  | .slash, char => char == '/'
  | .mark, char => markChars.contains char && char != '\'' && char != '/'
  | .opening delimiter, char => delimiter.openingText.toList == [char]
  | .closing delimiter, char => delimiter.closingText.toList == [char]
  | .other, _ => true

/-- May a word end in front of a character of the sort? The hash mark is not told from other marks. -/
def endsWord : CharSort → Bool
  | .blank | .slash | .mark | .opening _ | .closing _ => true
  | .letter | .digit | .quote | .tick | .other => false

theorem of_eq_other {char : Char} (outside : 0x80 ≤ char.toNat) : of char = .other := by
  have beyond : ∀ bound < 0x80, char.toNat.ble bound = false := by
    intro bound small
    rw [Bool.eq_false_iff, Ne, Nat.ble_eq]
    omega
  rw [of, beyond 96 (by decide), beyond 122 (by decide)]
  simp only [Bool.false_eq_true, if_false]
  split <;> first | omega | rfl

/-- What holds of every ASCII character of its sort, and of all characters of the last one, holds of
every character of its sort. -/
theorem of_ascii
    (known : CharSort → Char → Bool)
    (other : ∀ char, 0x80 ≤ char.toNat → known .other char = true)
    (ascii : ∀ code < 0x80, known (of (Char.ofNat code)) (Char.ofNat code) = true)
    (char : Char) :
    known (of char) char = true := by
  by_cases inAscii : char.toNat < 0x80
  · have checked := ascii char.toNat inAscii
    rwa [Char.ofNat_toNat] at checked
  · rw [of_eq_other (by omega)]
    exact other char (by omega)

theorem holds_of (char : Char) : (of char).holds char = true :=
  of_ascii holds (fun _ _ => rfl) (by decide) char

/-- Are a word and a literal at their end in front of the character? -/
def stops (sort : CharSort) (char : Char) : Bool :=
  match sort with
  | .blank | .opening _ | .closing _ => true
  | .mark => [':', ',', ';', '<', '>'].contains char
  | .letter | .digit | .quote | .tick | .slash | .other => false

theorem isStop_of_stops {char : Char} (stop : (of char).stops char = true) : isStop char = true := by
  have checked := of_ascii (fun sort char => !sort.stops char || isStop char) (fun _ _ => rfl)
    (by decide) char
  rwa [stop, Bool.not_true, Bool.false_or] at checked

theorem noLetter_of_endsWord
    {char : Char}
    (ends : (of char).endsWord = true) :
    continuesIdentifier char = false ∧ char ≠ '"' ∧ char ≠ '\'' := by
  have checked := of_ascii
    (fun sort char => !sort.endsWord || !continuesIdentifier char && char != '"' && char != '\'')
    (fun _ _ => rfl) (by decide) char
  simpa [ends, and_assoc] using checked

/-- Is a character of the sort a mark to the scanner? -/
def isMark : CharSort → Bool
  | .mark | .tick | .slash => true
  | .letter | .digit | .blank | .quote | .opening _ | .closing _ | .other => false

set_option maxRecDepth 4000 in
theorem contains_markChars (char : Char) : markChars.contains char = (of char).isMark := by
  have beyond : ∀ mark ∈ markChars, mark.toNat < 0x80 := forall_mem_of_all (by decide)
  have checked := of_ascii (fun sort char => markChars.contains char == sort.isMark)
    (fun char outside => by
      have noMark : char ∉ markChars := fun mark => absurd (beyond char mark) (by omega)
      rw [List.contains_eq_mem, decide_eq_false noMark]
      rfl)
    (by decide) char
  exact beq_iff_eq.mp checked

end CharSort

/-! ### Glyphs -/

/-- A known character of a line, or a part of the line that is not known. -/
inductive Glyph where
  | known (char : Char)
  | name (text : String)
  | inner (text : String)
  | prose (text : String)
  | code (text : String)

namespace Glyph

/-- The characters of a glyph. -/
def characters : Glyph → List Char
  | .known char => [char]
  | .name text | .inner text | .prose text | .code text => text.toList

/-- The characters of glyphs. -/
def charactersOf (glyphs : List Glyph) : List Char :=
  glyphs.flatMap characters

/-- Is the glyph a known character? -/
def isKnown : Glyph → Bool
  | .known _ => true
  | _ => false

theorem isKnown_eq_false
    {glyph : Glyph}
    (unknown : ∀ char, glyph ≠ .known char) :
    glyph.isKnown = false := by
  cases glyph with
  | known char => exact absurd rfl (unknown char)
  | name | inner | prose | code => rfl

/-- Does the glyph run on a word? -/
def continues : Glyph → Bool
  | .known char =>
      match CharSort.of char with
      | .letter | .digit => true
      | _ => false
  | .inner _ => true
  | _ => false

/-- Does a word end in front of the glyphs? -/
def endsWord : List Glyph → Bool
  | [] => true
  | .known char :: _ => (CharSort.of char).endsWord && char != '#'
  | _ :: _ => false

/-- Do a word and a literal end in front of the glyphs? -/
def stops : List Glyph → Bool
  | [] => true
  | .known char :: _ => (CharSort.of char).stops char
  | _ :: _ => false

/-- Is there no slash in front? -/
def noSlash : List Glyph → Bool
  | [] => true
  | .known char :: _ => CharSort.of char != .slash
  | .name _ :: _ => true
  | .code _ :: rest => noSlash rest
  | _ :: _ => false

/-- How a mark runs into the glyphs, if that is known. -/
def spacing? : List Glyph → Option Spacing
  | [] => some .alone
  | .known char :: _ =>
      match CharSort.of char with
      | .mark | .tick => some .joint
      | .slash => none
      | _ => some .alone
  | .name _ :: _ => some .alone
  | _ :: _ => none

/-- Is it known that a run is no word of the grammar? So it is if the run is a single glyph or known
in full, or if it holds more known characters than such a word has. -/
def isDecided (run : List Glyph) : Bool :=
  run.length == 1 || run.all isKnown || Nat.ble 6 (run.filter isKnown).length

/-- What follows the quote that ends a string. -/
def afterString? : List Glyph → Option (List Glyph)
  | [] => none
  | .known char :: rest =>
      match CharSort.of char with
      | .quote => some rest
      | .other =>
          match char, rest with
          | '\\', .known 'n' :: rest => afterString? rest
          | _, _ => none
      | _ => afterString? rest
  | .code _ :: _ => none
  | _ :: rest => afterString? rest

/-- Is the glyph a digit? -/
def isDigit : Glyph → Bool
  | .known char => CharSort.of char == .digit
  | _ => false

/-- Does a point in front of the glyphs not count as one of a number? -/
def blocksPoint : List Glyph → Bool
  | .known char :: _ => char == '.' || CharSort.of char == .letter
  | _ => false

/-- Does a decimal integer end in front of the glyphs? -/
def endsDigits : List Glyph → Bool
  | [] => true
  | .known char :: rest => (CharSort.of char).endsWord && (char != '.' || blocksPoint rest)
  | _ :: _ => false

/-- May the glyphs stand in a documentation line? -/
def isProse : List Glyph → Bool
  | [] => true
  | .known char :: rest => !char.toNat.beq 10 && isProse rest
  | .code _ :: _ => false
  | _ :: rest => isProse rest

end Glyph

/-! ### Parts that are what they are said to be -/

/-- A balanced row that imports nothing. -/
structure Inert (row : List Token) : Prop where
  noImport : .word "use" ∉ row
  balanced : Token.openBehind [] row = some []

/-- Text in front of which a scan is between tokens, and behind which it is again, if a stop follows;
what it reads there is inert. -/
structure IsCode (text : List Char) : Prop where
  noSlash : text.head? ≠ some '/'
  passes : ∀ rest, Stops rest → ∃ tokens, Passes (text ++ rest) tokens rest ∧ Inert tokens

/-- The characters that a string or a comment does not hold as themselves. -/
def specialChars : List Char :=
  ['"', '\\', '\r', '\n']

theorem CharSort.not_special
    {char : Char}
    (noQuote : CharSort.of char ≠ .quote)
    (noOther : CharSort.of char ≠ .other) :
    char ∉ specialChars := by
  have checked := of_ascii
    (fun sort char => sort == .quote || sort == .other || !specialChars.contains char)
    (fun _ _ => rfl) (by decide) char
  simpa [noQuote, noOther] using checked

/-- Is a part of a line what its sort says? -/
def Glyph.IsSound : Glyph → Prop
  | .known _ => True
  | .name text => isWord text = true ∧ text ≠ "use"
  | .inner text => ∀ char ∈ text.toList, continuesIdentifier char = true
  | .prose text => ∀ char ∈ text.toList, char ∉ specialChars
  | .code text => IsCode text.toList

/-! ### Words -/

/-- A word that runs on is a word. A raw one could become one that has no raw mark, but all of these
are short. -/
theorem isWord_append
    {name : String}
    {more : List Char}
    (word : isWord name = true)
    (continues : ∀ char ∈ more, continuesIdentifier char = true)
    (long : 6 ≤ more.length) :
    isWord (String.ofList (name.toList ++ more)) = true := by
  rcases anyWord?_eq_some (beq_iff_eq.mp word) with
    ⟨behind, plain, spelled, plainRead, -⟩ | ⟨-, plainRead⟩
  · obtain ⟨first, tail, rfl, starts, -, nothing⟩ := startsWord_of_plainWord plainRead
    have letters : ∀ char ∈ tail ++ more, continuesIdentifier char = true := by
      intro char member
      rcases List.mem_append.mp member with inTail | inMore
      · exact List.dropWhile_eq_nil_iff.mp nothing.symm char inTail
      · exact continues char inMore
    have allowed : unrawableWords.contains (String.ofList (first :: (tail ++ more))) = false := by
      have short : ∀ reserved ∈ unrawableWords, reserved.toList.length ≤ 5 := by decide
      rw [Bool.eq_false_iff]
      intro reserved
      have bound := short _ (List.contains_iff_mem.mp reserved)
      rw [String.toList_ofList, List.length_cons, List.length_append] at bound
      omega
    rw [spelled, isWord, String.toList_ofList, List.cons_append, List.cons_append, List.cons_append,
      anyWord?, plainWord?_of_letters starts letters]
    simp only [allowed, Bool.false_eq_true, if_false, beq_iff_eq, Option.some.injEq, Prod.mk.injEq,
      and_true]
    apply String.toList_inj.mp
    simp
  · obtain ⟨first, tail, spelled, starts, -, nothing⟩ := startsWord_of_plainWord plainRead
    rw [spelled, List.cons_append]
    apply isWord_of_letters starts
    intro char member
    rcases List.mem_append.mp member with inTail | inMore
    · exact List.dropWhile_eq_nil_iff.mp nothing.symm char inTail
    · exact continues char inMore

namespace Glyph

theorem continues_of_mem
    {glyph : Glyph}
    (sound : glyph.IsSound)
    (continues : glyph.continues = true) :
    ∀ char ∈ glyph.characters, continuesIdentifier char = true := by
  cases glyph with
  | known char =>
      have known := CharSort.holds_of char
      rw [Glyph.continues] at continues
      intro other member
      rw [List.mem_singleton.mp member]
      split at continues
      · next letter =>
          rw [letter] at known
          exact (Bool.and_eq_true _ _ ▸ known).2
      · next digit =>
          rw [digit] at known
          exact (Bool.and_eq_true _ _ ▸ known).2
      · contradiction
  | inner text => exact sound
  | name | prose | code => contradiction

/-- The characters of a run behind its first glyph are those of a word. -/
theorem continues_of_mem_run
    {rest : List Glyph}
    (sound : ∀ glyph ∈ rest, glyph.IsSound) :
    ∀ char ∈ charactersOf (rest.takeWhile continues), continuesIdentifier char = true := by
  intro char member
  obtain ⟨glyph, inRun, member⟩ := List.mem_flatMap.mp member
  have inRest := (List.takeWhile_subset _) inRun
  exact continues_of_mem (sound glyph inRest) (List.mem_takeWhile_imp inRun) char member

theorem charactersOf_append (front back : List Glyph) :
    charactersOf (front ++ back) = charactersOf front ++ charactersOf back :=
  List.flatMap_append

theorem charactersOf_cons (glyph : Glyph) (rest : List Glyph) :
    charactersOf (glyph :: rest) = glyph.characters ++ charactersOf rest :=
  List.flatMap_cons

theorem charactersOf_known (characters : List Char) :
    charactersOf (characters.map .known) = characters := by
  rw [charactersOf, List.flatMap_map]
  exact List.flatMap_singleton' characters

/-! ### What stands behind a lexeme -/

theorem ends_of_endsWord
    {glyphs : List Glyph}
    (ends : endsWord glyphs = true)
    (back : List Char) :
    Ends (charactersOf glyphs ++ '\n' :: back) := by
  cases glyphs with
  | nil => exact ends_of_stops (by rintro _ ⟨⟩; decide)
  | cons glyph rest =>
      cases glyph with
      | known char =>
          rw [endsWord, Bool.and_eq_true, bne_iff_ne] at ends
          obtain ⟨noLetter, noQuote, noTick⟩ := CharSort.noLetter_of_endsWord ends.1
          constructor
          · rintro _ ⟨⟩
            exact noLetter
          · rintro _ ⟨⟩
            simp [noQuote, noTick, ends.2]
      | name | inner | prose | code => contradiction

theorem stops_of_stops
    {glyphs : List Glyph}
    (stop : stops glyphs = true)
    (back : List Char) :
    Stops (charactersOf glyphs ++ '\n' :: back) := by
  cases glyphs with
  | nil =>
      rintro _ ⟨⟩
      decide
  | cons glyph rest =>
      cases glyph with
      | known char =>
          rintro _ ⟨⟩
          exact CharSort.isStop_of_stops stop
      | name | inner | prose | code => contradiction

theorem noLetter_of_endsWord
    {glyphs : List Glyph}
    (ends : endsWord glyphs = true)
    (back : List Char) :
    ∀ char ∈ (charactersOf glyphs ++ '\n' :: back).head?, continuesIdentifier char = false :=
  (ends_of_endsWord ends back).noLetter

theorem endsDigits_of_endsDigits
    {glyphs : List Glyph}
    (ends : endsDigits glyphs = true)
    (back : List Char) :
    Literal.EndsDigits (charactersOf glyphs ++ '\n' :: back) := by
  cases glyphs with
  | nil =>
      refine ⟨?_, ?_⟩
      · rintro _ ⟨⟩
        decide
      · rintro _ ⟨⟩
  | cons glyph rest =>
      cases glyph with
      | name | inner | prose | code => contradiction
      | known char =>
          rw [endsDigits, Bool.and_eq_true] at ends
          refine ⟨?_, ?_⟩
          · rintro _ ⟨⟩
            exact (CharSort.noLetter_of_endsWord ends.1).1
          · intro fraction same
            obtain ⟨rfl, rfl⟩ := List.cons.inj same
            have blocked : blocksPoint rest = true := by simpa using ends.2
            cases rest with
            | nil => contradiction
            | cons next rest =>
                cases next with
                | name | inner | prose | code => contradiction
                | known next =>
                    rw [blocksPoint, Bool.or_eq_true, beq_iff_eq, beq_iff_eq] at blocked
                    show (next == '.' || Literal.startsWord next) = true
                    rcases blocked with rfl | letter
                    · rfl
                    · have known := CharSort.holds_of next
                      rw [letter, CharSort.holds, Bool.and_eq_true] at known
                      rw [known.1, Bool.or_true]

theorem noSlash_of_noSlash
    {glyphs : List Glyph}
    (sound : ∀ glyph ∈ glyphs, glyph.IsSound)
    (plain : noSlash glyphs = true)
    (back : List Char) :
    ∀ char ∈ (charactersOf glyphs ++ '\n' :: back).head?, char ≠ '/' := by
  induction glyphs with
  | nil =>
      rintro _ ⟨⟩
      decide
  | cons glyph rest inductionHypothesis =>
      have soundGlyph := sound glyph List.mem_cons_self
      have behind := inductionHypothesis fun other member => sound other (List.mem_cons_of_mem _ member)
      rw [charactersOf_cons, List.append_assoc]
      cases glyph with
      | known char =>
          rintro _ ⟨⟩ rfl
          cases plain
      | name text =>
          obtain ⟨first, tail, spelled, starts, -⟩ :=
            exists_start_of_isWord (ends_of_stops stops_nil) soundGlyph.1
          rw [characters, spelled]
          rintro _ ⟨⟩ rfl
          exact absurd starts (by decide)
      | code text =>
          cases characterList : text.toList with
          | nil =>
              rw [characters, characterList]
              exact behind plain
          | cons first tail =>
              rw [characters, characterList]
              rintro _ ⟨⟩ rfl
              exact soundGlyph.noSlash (by rw [characterList]; rfl)
      | inner | prose => contradiction

end Glyph

/-! ### Strings -/

/-- The inside of a string: characters that stand for themselves, and ends of lines. -/
inductive IsInside : List Char → Prop where
  | nil : IsInside []
  | char {char : Char} {rest : List Char} (plain : char ∉ specialChars) (inside : IsInside rest) :
      IsInside (char :: rest)
  | newline {rest : List Char} (inside : IsInside rest) : IsInside ('\\' :: 'n' :: rest)

theorem IsInside.append
    {front back : List Char}
    (plain : ∀ char ∈ front, char ∉ specialChars)
    (inside : IsInside back) :
    IsInside (front ++ back) := by
  induction front with
  | nil => exact inside
  | cons char front inductionHypothesis =>
      exact .char (plain char List.mem_cons_self)
        (inductionHypothesis fun other member => plain other (List.mem_cons_of_mem _ member))

theorem IsInside.afterCooked
    {text : List Char}
    (inside : IsInside text)
    {fuel : Nat}
    (enough : text.length < fuel)
    (rest : List Char) :
    Literal.afterCooked .text fuel (text ++ '"' :: rest) = some (Literal.afterSuffix rest) := by
  induction inside generalizing fuel with
  | nil =>
      cases fuel with
      | zero => contradiction
      | succ fuel => rfl
  | char plain _ inductionHypothesis =>
      cases fuel with
      | zero => contradiction
      | succ fuel =>
          simp only [specialChars, List.mem_cons, List.not_mem_nil, or_false, not_or] at plain
          rw [List.cons_append, Literal.afterCooked]
          · rw [if_pos]
            · exact inductionHypothesis (Nat.lt_of_succ_lt_succ enough)
            · simp [plain.2.1, Literal.Quoted.allowsChar]
          all_goals simp [plain.1, plain.2.1, plain.2.2.1]
  | newline _ inductionHypothesis =>
      cases fuel with
      | zero => contradiction
      | succ fuel =>
          rw [List.length_cons, List.length_cons] at enough
          exact inductionHypothesis (by omega)

/-- A string whose inside is plain is read to its end, in front of anything but a letter. -/
theorem IsInside.read
    {text rest : List Char}
    (inside : IsInside text)
    (noLetter : ∀ char ∈ rest.head?, continuesIdentifier char = false) :
    Literal.after ('"' :: (text ++ '"' :: rest)) = some rest := by
  have quoted : Literal.afterQuoted ('"' :: (text ++ '"' :: rest))
      = some (Literal.afterSuffix rest) :=
    inside.afterCooked (by rw [List.length_append]; omega) rest
  rw [Literal.after, quoted, Literal.afterSuffix_of_noLetter noLetter]
  rfl

theorem not_special_of_isWordChar
    {char : Char}
    (within : isWordChar char = true) :
    char ∉ specialChars := by
  have special : ∀ char ∈ specialChars, isWordChar char = false :=
    forall_mem_of_all (by decide)
  intro member
  rw [special char member] at within
  contradiction

/-- The characters of a part that is not known, where it stands in a string or a comment. -/
theorem Glyph.IsSound.not_special
    {glyph : Glyph}
    (sound : glyph.IsSound)
    (unknown : glyph.isKnown = false)
    (noCode : ∀ text, glyph ≠ .code text) :
    ∀ char ∈ glyph.characters, char ∉ specialChars := by
  intro char member
  cases glyph with
  | known => contradiction
  | name text => exact not_special_of_isWordChar (isWordChar_of_isWord sound.1 char member)
  | inner text =>
      apply not_special_of_isWordChar
      rw [isWordChar, sound char member, Bool.true_or, Bool.true_or]
  | prose text => exact sound char member
  | code text => exact absurd rfl (noCode text)

end Scaffold.Artifact
